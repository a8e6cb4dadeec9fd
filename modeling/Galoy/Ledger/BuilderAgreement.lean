import Galoy.Ledger.EntryChains

set_option autoImplicit false

namespace Galoy

open LedgerService

def Entry.netChange (entry : Entry) (account : LedgerAccountId) (currency : WalletCurrency) : ℚ :=
  netOver (fun a c => a = account && c = currency) entry.inNumbers.transactions

def SameNetChange (first second : Entry) : Prop :=
  ∀ account currency, first.netChange account currency = second.netChange account currency

theorem SameNetChange.ofPostings {first second : Entry} (same : first.postings = second.postings) :
    SameNetChange first second := by
  intro account currency
  unfold Entry.netChange
  rw [netOver_inNumbers, netOver_inNumbers, same]

def AmountWithFees.amountIn (amounts : AmountWithFees) : (currency : WalletCurrency) →
    Amount currency
  | .btc => amounts.btcWithFees
  | .usd => amounts.usdWithFees

namespace LegacyCredit

def toAccount (amounts : AmountWithFees) (accountId : LedgerAccountId) :
    (debitCurrency creditCurrency : WalletCurrency) → LegacyCredit debitCurrency
  | .btc, .btc => .btcAccount accountId none
  | .btc, .usd => .btcAccount accountId (some amounts.usdWithFees)
  | .usd, .btc => .usdAccount accountId (some amounts.btcWithFees)
  | .usd, .usd => .usdAccount accountId none

def toLnd (amounts : AmountWithFees) : (debitCurrency : WalletCurrency) → LegacyCredit debitCurrency
  | .btc => .btcLnd
  | .usd => .usdLnd amounts.btcWithFees

end LegacyCredit

section Free

variable (ids : StaticAccountIds) (amounts : AmountWithFees)

def freePostings (debitCurrency : WalletCurrency) (credited : LedgerAccountDescriptor) :
    List Posting :=
  conversionPostings ids amounts zeroBankFee debitCurrency credited.currency ++
    [.credited credited.id credited.currency (amounts.inCurrency credited.currency)]

theorem toAccount_postings (debitCurrency : WalletCurrency) (credited : LedgerAccountDescriptor) :
    (LegacyCredit.toAccount amounts credited.id debitCurrency credited.currency).postings ids
        (amounts.amountIn debitCurrency).amount 0 =
      freePostings ids amounts debitCurrency credited := by
  obtain ⟨accountId, creditCurrency⟩ := credited
  cases debitCurrency <;> cases creditCurrency <;>
    simp [LegacyCredit.toAccount, LegacyCredit.postings, freePostings, conversionPostings,
      AmountWithFees.amountIn, AmountWithFees.inCurrency, BankFee.inCurrency, zeroBankFee,
      zeroSats, zeroCents]

theorem toLnd_postings (debitCurrency : WalletCurrency) :
    (LegacyCredit.toLnd amounts debitCurrency).postings ids (amounts.amountIn debitCurrency).amount
      0 =
      freePostings ids amounts debitCurrency lndLedgerAccountDescriptor := by
  rw [← toAccount_postings]
  cases debitCurrency <;> rfl

end Free

theorem legacy_postings {builder : LegacyEntryBuilder} (new : builder.entry.transactions = [])
    {currency : WalletCurrency} (debit : LegacyDebit currency) (credit : LegacyCredit currency) :
    ((builder.withoutFee.debit debit).credit credit).postings =
      (Posting.debited debit.accountId currency debit.amount.amount ::
        credit.postings builder.staticAccountIds debit.amount.amount 0).filter Posting.moves := by
  obtain ⟨amount, fee, ids⟩ := legacyDebit_kept builder.withoutFee debit
  have empty : builder.withoutFee.entry.postings = [] := congrArg (List.map Leg.posting) new
  rw [postings_legacyCredit, postings_legacyDebit, amount, fee, ids, empty]
  rfl

theorem builder_postings {builder : EntryBuilder} (new : builder.entry.transactions = [])
    (amounts : AmountWithFees) (debited credited : LedgerAccountDescriptor)
    (additional : AdditionalMetadata) :
    ((((builder.withTotalAmount amounts).withBankFee zeroBankFee).debitAccount debited
        additional).creditAccount credited).postings =
      (Posting.debited debited.id debited.currency (amounts.inCurrency debited.currency) ::
        freePostings builder.staticAccountIds amounts debited.currency credited).filter
    Posting.moves := by
  have free : zeroBankFee.inCurrency credited.currency = 0 := by cases credited.currency <;> rfl
  have empty : ((builder.withTotalAmount amounts).withBankFee zeroBankFee).entry.postings = [] :=
    congrArg (List.map Leg.posting) new
  have posted := postings_creditAccount
    (((builder.withTotalAmount amounts).withBankFee zeroBankFee).debitAccount debited additional)
      credited
  rw [postings_debitAccount, empty] at posted
  change _ = ([Posting.debited _ _ _] ++ conversionPostings builder.staticAccountIds amounts
    zeroBankFee _ _ ++
    [Posting.credited _ _ (amounts.inCurrency _ - zeroBankFee.inCurrency _)]).filter _ at posted
  rw [posted, free, sub_zero]
  rfl

section Agreement

variable (amounts : AmountWithFees)

theorem addIntraledgerTxTransfer_eq (bank : BankWallets) (args : IntraledgerTransferArgs)
    (sats : args.sats = some (amounts.btcWithFees.amount : ℚ))
    (cents : args.cents = some (amounts.usdWithFees.amount : ℚ)) (share : Bool)
    (metadata : TxMetadata) :
    addIntraledgerTxTransfer bank args share metadata =
      .ok (((legacyEntryBuilder bank args.description
          { metadata with
            username := args.senderUsername
            memoPayer := if share then args.memoPayer else none }).withoutFee.debit
          (.account (toLedgerAccountId args.senderWalletId)
            (amounts.amountIn args.senderWalletCurrency)
            { memoPayer := some args.memoPayer, username := some args.recipientUsername })).credit
          (.toAccount amounts (toLedgerAccountId args.recipientWalletId) args.senderWalletCurrency
            args.recipientWalletCurrency)) := by
  unfold addIntraledgerTxTransfer
  dsimp only
  rw [sats, cents]
  cases args.senderWalletCurrency <;> cases args.recipientWalletCurrency <;>
    simp only [centsAndSats, paymentAmountFromNumber_int] <;> rfl

theorem amountIn_amount (currency : WalletCurrency) :
    (amounts.amountIn currency).amount = amounts.inCurrency currency := by
  cases currency <;> rfl

theorem builders_same_net_change :
    (∀ (bank : BankWallets) (args : IntraledgerTransferArgs) (share : Bool) (metadata : TxMetadata)
        (record : RecordIntraledgerArgs),
      args.sats = some (amounts.btcWithFees.amount : ℚ) →
      args.cents = some (amounts.usdWithFees.amount : ℚ) →
      record.amount = ⟨amounts.btcWithFees, amounts.usdWithFees⟩ →
      toLedgerAccountDescriptor record.senderWalletDescriptor =
        ⟨toLedgerAccountId args.senderWalletId, args.senderWalletCurrency⟩ →
      toLedgerAccountDescriptor record.recipientWalletDescriptor =
        ⟨toLedgerAccountId args.recipientWalletId, args.recipientWalletCurrency⟩ →
      ∃ entry, addIntraledgerTxTransfer bank args share metadata = .ok entry ∧
        SameNetChange entry (LedgerFacade.recordIntraledger bank record)) ∧
    (∀ (legacy : LegacyEntryBuilder) (builder : EntryBuilder) (debited : LedgerAccountDescriptor)
        (legacyAdditional additional : AdditionalMetadata),
      legacy.entry.transactions = [] → builder.entry.transactions = [] →
      legacy.staticAccountIds = builder.staticAccountIds →
      SameNetChange
        ((legacy.withoutFee.debitAccount debited.id (amounts.amountIn debited.currency)
          legacyAdditional).credit (.toLnd amounts debited.currency))
        (((builder.withTotalAmount amounts).withBankFee zeroBankFee).debitAccount debited
          additional).creditLnd) ∧
    ∀ (legacy : LegacyEntryBuilder) (builder : EntryBuilder) (credited : LedgerAccountDescriptor),
      legacy.entry.transactions = [] → builder.entry.transactions = [] →
      legacy.staticAccountIds = builder.staticAccountIds →
      SameNetChange
        ((legacy.withoutFee.debitLnd amounts.btcWithFees).credit
          (.toAccount amounts credited.id .btc credited.currency))
        (((builder.withTotalAmount amounts).withBankFee zeroBankFee).debitLnd.creditAccount
          credited) := by
  refine ⟨?_, ?_, ?_⟩
  · intro bank args share metadata record sats cents sameAmount sender recipient
    refine ⟨_, addIntraledgerTxTransfer_eq amounts bank args sats cents share metadata,
      .ofPostings ?_⟩
    unfold LedgerFacade.recordIntraledger
    dsimp only
    rw [sender, recipient, sameAmount, builder_postings rfl, legacy_postings rfl]
    rw [LegacyDebit.amount, toAccount_postings _ amounts _ ⟨_, _⟩, amountIn_amount]
    rfl
  · intro legacy builder debited legacyAdditional additional newLegacy newBuilder sameIds
    apply SameNetChange.ofPostings
    rw [EntryBuilderCredit.creditLnd, builder_postings newBuilder, ← toLnd_postings,
      ← amountIn_amount, ← sameIds]
    exact legacy_postings newLegacy
      (.account debited.id (amounts.amountIn debited.currency) legacyAdditional)
      (.toLnd amounts debited.currency)
  · intro legacy builder credited newLegacy newBuilder sameIds
    apply SameNetChange.ofPostings
    rw [EntryBuilderDebit.debitLnd, builder_postings newBuilder, ← toAccount_postings, ← sameIds]
    exact legacy_postings newLegacy (.lnd amounts.btcWithFees)
      (.toAccount amounts credited.id .btc credited.currency)

end Agreement

theorem builders_same_net_change_btc_to_usd :
    ∃ entry,
      addIntraledgerTxTransfer exampleBank
        ⟨"sender", .btc, none, "", some 2000, some 20, "recipient", .usd, none, none⟩ true
        { type := .intraLedger, pending := false } = .ok entry ∧
      SameNetChange entry
        (LedgerFacade.recordIntraledger exampleBank
          { description := ""
            senderWalletDescriptor := ⟨"sender", .btc, "senderAccount"⟩
            recipientWalletDescriptor := ⟨"recipient", .usd, "recipientAccount"⟩
            amount := ⟨⟨2000⟩, ⟨20⟩⟩
            metadata := { type := .intraLedger, pending := false } }) :=
  (builders_same_net_change ⟨⟨20⟩, ⟨2000⟩⟩).1 _ _ _ _ _ rfl rfl rfl rfl rfl

end Galoy
