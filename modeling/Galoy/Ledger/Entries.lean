import Galoy.Ledger.Balance

set_option autoImplicit false

namespace Galoy

def Entry.Tagged (metadata : TxMetadata) (entry : Entry) : Prop :=
  ∀ leg ∈ entry.transactions, ∃ additional, leg.metadata = metadata.override additional

section Tagged

variable {metadata : TxMetadata} {entry : Entry}

theorem Entry.Tagged.add (tagged : entry.Tagged metadata) (leg : Leg)
    (additional : AdditionalMetadata) (same : leg.metadata = metadata.override additional) :
    Entry.Tagged metadata { entry with transactions := entry.transactions ++ [leg] } := by
  intro other member
  rcases List.mem_append.mp member with old | new
  · exact tagged other old
  · obtain rfl := List.mem_singleton.mp new
    exact ⟨additional, same⟩

theorem Entry.Tagged.credit (tagged : entry.Tagged metadata) (account : LedgerAccountId)
    (amount : ℚ) (currency : WalletCurrency) :
    (entry.credit account amount currency metadata).Tagged metadata :=
  tagged.add _ {} rfl

theorem Entry.Tagged.debit (tagged : entry.Tagged metadata) (account : LedgerAccountId) (amount : ℚ)
    (currency : WalletCurrency) : (entry.debit account amount currency metadata).Tagged metadata :=
  tagged.add _ {} rfl

theorem Entry.Tagged.removeZeroAmountEntries (tagged : entry.Tagged metadata) :
    entry.removeZeroAmountEntries.Tagged metadata :=
  fun leg member => tagged leg (List.mem_of_mem_filter member)

theorem withBankFee_tagged (builder : EntryBuilderFee) (bankFee : BankFee)
    (tagged : builder.entry.Tagged builder.metadata) :
    (builder.withBankFee bankFee).entry.Tagged builder.metadata := by
  unfold EntryBuilderFee.withBankFee
  dsimp only
  split
  · exact tagged.credit _ _ _
  · exact tagged

theorem debitAccount_tagged (builder : EntryBuilderDebit) (debited : LedgerAccountDescriptor)
    (additional : AdditionalMetadata) (tagged : builder.entry.Tagged builder.metadata) :
    (builder.debitAccount debited additional).entry.Tagged builder.metadata := by
  unfold EntryBuilderDebit.debitAccount
  cases debited.currency <;> exact tagged.add _ additional rfl

theorem withConversion_tagged (builder : EntryBuilderCredit) (creditCurrency : WalletCurrency)
    (tagged : builder.entry.Tagged builder.metadata) :
    (builder.withConversion creditCurrency).Tagged builder.metadata := by
  unfold EntryBuilderCredit.withConversion
  cases builder.debitCurrency <;> cases creditCurrency
  case btc.btc => exact tagged
  case btc.usd => exact (tagged.credit _ _ _).debit _ _ _
  case usd.btc => exact (tagged.debit _ _ _).credit _ _ _
  case usd.usd =>
    dsimp only
    split
    · exact (tagged.debit _ _ _).credit _ _ _
    · exact tagged

theorem creditAccount_tagged (builder : EntryBuilderCredit) (credited : LedgerAccountDescriptor)
    (tagged : builder.entry.Tagged builder.metadata) :
    (builder.creditAccount credited).Tagged builder.metadata := by
  rcases credited with ⟨id, currency⟩
  have converted := withConversion_tagged builder currency tagged
  cases currency <;> exact (converted.credit id _ _).removeZeroAmountEntries

theorem builder_tagged (builder : EntryBuilder) (fresh : builder.entry.transactions = [])
    (total : AmountWithFees) (fee : BankFee) (debited credited : LedgerAccountDescriptor)
    (additional : AdditionalMetadata) :
    ((((builder.withTotalAmount total).withBankFee fee).debitAccount debited
      additional).creditAccount credited).Tagged builder.metadata := by
  refine creditAccount_tagged _ _ (debitAccount_tagged _ _ _ (withBankFee_tagged _ _ ?_))
  intro leg member
  simp [EntryBuilder.withTotalAmount, fresh] at member

theorem withConversion_keeps (builder : EntryBuilderCredit) (creditCurrency : WalletCurrency)
    (leg : Leg) (member : leg ∈ builder.entry.transactions) :
    leg ∈ (builder.withConversion creditCurrency).transactions := by
  unfold EntryBuilderCredit.withConversion
  cases builder.debitCurrency <;> cases creditCurrency
  case btc.btc => exact member
  case btc.usd => simp [addBtcToUsdConversionToDealer, Entry.credit, Entry.debit, member]
  case usd.btc => simp [addUsdToBtcConversionToEntry, Entry.credit, Entry.debit, member]
  case usd.usd =>
    dsimp only
    split
    · simp [addUsdToBtcConversionToEntry, Entry.credit, Entry.debit, member]
    · exact member

theorem creditAccount_keeps (builder : EntryBuilderCredit) (credited : LedgerAccountDescriptor)
    (leg : Leg) (member : leg ∈ builder.entry.transactions) (nonzero : leg.debit ≠ 0) :
    leg ∈ (builder.creditAccount credited).transactions := by
  have converted := withConversion_keeps builder credited.currency leg member
  rcases credited with ⟨id, currency⟩
  cases currency <;>
    simp [EntryBuilderCredit.creditAccount, Entry.removeZeroAmountEntries, Entry.credit, converted,
      nonzero]

theorem builder_debits (builder : EntryBuilder) (total : AmountWithFees) (fee : BankFee)
    (debited credited : LedgerAccountDescriptor) (additional : AdditionalMetadata)
    (nonzero : total.inCurrency debited.currency ≠ 0) :
    (⟨debited.id, total.inCurrency debited.currency, 0, debited.currency,
        builder.metadata.override additional⟩ : Leg) ∈
      ((((builder.withTotalAmount total).withBankFee fee).debitAccount debited
        additional).creditAccount credited).transactions := by
  refine creditAccount_keeps _ _ _ ?_ (by simpa using nonzero)
  rcases debited with ⟨id, currency⟩
  cases currency <;>
    simp [EntryBuilderDebit.debitAccount, Entry.debit, AmountWithFees.inCurrency,
      EntryBuilder.withTotalAmount, EntryBuilderFee.withBankFee]

variable (bank : BankWallets)

theorem recordSend_tagged (args : RecordSendArgs) :
    (LedgerFacade.recordSend bank args).Tagged args.metadata := builder_tagged _ rfl _ _ _ _ _

theorem recordReceive_tagged (args : RecordReceiveArgs) :
    (LedgerFacade.recordReceive bank args).Tagged args.metadata := builder_tagged _ rfl _ _ _ _ _

theorem recordReceive_settled {paymentHash : PaymentHash} (bank : BankWallets)
    (args : RecordReceiveArgs) (settled : args.metadata.pending = false) (leg : Leg)
    (member : leg ∈ (LedgerFacade.recordReceive bank args).transactions) :
    leg.isPendingFor paymentHash = false := by
  obtain ⟨additional, same⟩ := recordReceive_tagged bank args leg member
  simp [Leg.isPendingFor, same, TxMetadata.override, settled]

theorem recordIntraledger_tagged (args : RecordIntraledgerArgs) :
    (LedgerFacade.recordIntraledger bank args).Tagged args.metadata :=
  builder_tagged _ rfl _ _ _ _ _

end Tagged

@[simp] theorem override_empty (metadata : TxMetadata) : metadata.override {} = metadata := rfl

def sendLegs (bank : BankWallets) (args : RecordSendArgs) : List Leg :=
  let sender := args.senderWalletDescriptor
  let btc : ℚ := args.amountToDebitSender.btc.amount
  let usd : ℚ := args.amountToDebitSender.usd.amount
  match sender.currency with
  | .btc =>
    [⟨toLedgerAccountId sender.id, btc, 0, .btc, args.metadata⟩,
      ⟨.lnd, 0, btc, .btc, args.metadata⟩]
  | .usd =>
    [⟨toLedgerAccountId sender.id, usd, 0, .usd, args.metadata⟩,
      ⟨toLedgerAccountId bank.dealerBtc, btc, 0, .btc, args.metadata⟩,
      ⟨toLedgerAccountId bank.dealerUsd, 0, usd, .usd, args.metadata⟩,
      ⟨.lnd, 0, btc, .btc, args.metadata⟩]

theorem recordSend_transactions (bank : BankWallets) (args : RecordSendArgs)
    (noFee : args.bankFee = none) :
    (LedgerFacade.recordSend bank args).transactions =
      (sendLegs bank args).filter fun leg => ¬(leg.debit = 0 ∧ leg.credit = 0) := by
  rcases args with ⟨description, ⟨id, currency, accountId⟩, ⟨btc, usd⟩, bankFee, metadata⟩
  cases noFee
  cases currency <;>
    simp [LedgerFacade.recordSend, LedgerFacade.actualFee, sendLegs, EntryBuilder.withTotalAmount,
      EntryBuilderFee.withBankFee, EntryBuilderDebit.debitAccount, EntryBuilderCredit.creditLnd,
      EntryBuilderCredit.creditAccount, EntryBuilderCredit.withConversion,
      addUsdToBtcConversionToEntry, lndLedgerAccountDescriptor, toLedgerAccountDescriptor,
      Entry.removeZeroAmountEntries, Entry.credit, Entry.debit, zeroSats, zeroCents,
      AmountCalculator.sub, BankWallets.staticAccountIds]

theorem netOver_recordReceive_btc (q : Selection) (bank : BankWallets) (args : RecordReceiveArgs)
    (noFee : args.bankFee = none) (btcWallet : args.recipientWalletDescriptor.currency = .btc) :
    netOver q (LedgerFacade.recordReceive bank args).transactions =
      (if q (toLedgerAccountId args.recipientWalletDescriptor.id) .btc then
        (args.amountToCreditReceiver.btc.amount : ℚ) else 0) -
        if q .lnd .btc then (args.amountToCreditReceiver.btc.amount : ℚ) else 0 := by
  rcases args with ⟨description, ⟨id, currency, accountId⟩, ⟨btc, usd⟩, bankFee, metadata⟩
  cases noFee
  cases btcWallet
  refine (netOver_builder_free q
    { staticAccountIds := bank.staticAccountIds, entry := { description }, metadata }
    ⟨AmountCalculator.add usd zeroCents, AmountCalculator.add btc zeroSats⟩
    lndLedgerAccountDescriptor
    ⟨toLedgerAccountId id, .btc⟩ {}).trans ?_
  simp only [AmountWithFees.inCurrency, zeroSats, conversionNet, lndLedgerAccountDescriptor,
    AmountCalculator.add, netOver_nil, add_zero]
  ring

def Journal.isReceiveFor (paymentHash : PaymentHash) (journal : Journal) : Bool :=
  journal.legs.any fun leg => leg.metadata.type = .invoice && leg.ofHash paymentHash

def Ledger.receives (ledger : Ledger) (paymentHash : PaymentHash) : Nat :=
  ledger.journals.countP (·.isReceiveFor paymentHash)

end Galoy
