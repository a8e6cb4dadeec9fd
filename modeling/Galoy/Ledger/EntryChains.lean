import Galoy.Ledger.Conservation
import Galoy.Shared.Number
import Mathlib.Tactic.Simps.Basic

set_option autoImplicit false

namespace Galoy

open AmountCalculator

def Leg.inNumbers (leg : Leg) : Leg :=
  { leg with debit := toNumber leg.debit.num, credit := toNumber leg.credit.num }

namespace Entry

def inNumbers (entry : Entry) : Entry :=
  { entry with transactions := entry.transactions.map Leg.inNumbers }

def debits (entry : Entry) (currency : WalletCurrency) : ℚ :=
  ((entry.transactions.filter (·.currency = currency)).map (·.debit)).sum

def credits (entry : Entry) (currency : WalletCurrency) : ℚ :=
  ((entry.transactions.filter (·.currency = currency)).map (·.credit)).sum

structure Sound (entry : Entry) : Prop where
  balanced : ∀ currency, entry.debits currency = entry.credits currency
  nonzero : ∀ leg ∈ entry.transactions, ¬(leg.debit = 0 ∧ leg.credit = 0)
  nonnegative : ∀ leg ∈ entry.transactions, 0 ≤ leg.debit ∧ 0 ≤ leg.credit

end Entry

structure Posting where
  account : LedgerAccountId
  currency : WalletCurrency
  debit : Int
  credit : Int
  deriving DecidableEq, Repr

namespace Posting

@[simps] def debited (account : LedgerAccountId) (currency : WalletCurrency)
    (amount : Int) : Posting :=
  ⟨account, currency, amount, 0⟩

@[simps] def credited (account : LedgerAccountId) (currency : WalletCurrency)
    (amount : Int) : Posting :=
  ⟨account, currency, 0, amount⟩

def moves (posting : Posting) : Bool := ¬(posting.debit = 0 ∧ posting.credit = 0)

theorem moves_iff {posting : Posting} : posting.moves = true ↔
    ¬(posting.debit = 0 ∧ posting.credit = 0) :=
  decide_eq_true_iff

def net (posting : Posting) : ℚ := toNumber posting.credit - toNumber posting.debit

def Nonneg (posting : Posting) : Prop := 0 ≤ posting.debit ∧ 0 ≤ posting.credit

@[simp] theorem debited_nonneg {account : LedgerAccountId} {currency : WalletCurrency}
    {amount : Int} :
    (debited account currency amount).Nonneg ↔ 0 ≤ amount := by simp [Nonneg]

@[simp] theorem credited_nonneg {account : LedgerAccountId} {currency : WalletCurrency}
    {amount : Int} :
    (credited account currency amount).Nonneg ↔ 0 ≤ amount := by simp [Nonneg]

end Posting

def Leg.posting (leg : Leg) : Posting := ⟨leg.account, leg.currency, leg.debit.num, leg.credit.num⟩

def Entry.postings (entry : Entry) : List Posting := entry.transactions.map Leg.posting

def movedOver (q : Selection) (postings : List Posting) : ℚ :=
  (postings.map fun posting => if q posting.account posting.currency then posting.net else 0).sum

@[simp] theorem movedOver_nil (q : Selection) : movedOver q [] = 0 := rfl

@[simp] theorem movedOver_cons (q : Selection) (posting : Posting) (postings : List Posting) :
    movedOver q (posting :: postings) =
      (if q posting.account posting.currency then posting.net else 0) + movedOver q postings := by
  simp [movedOver]

theorem forall_currency {property : WalletCurrency → Prop} :
    (∀ currency, property currency) ↔ property .btc ∧ property .usd := by
  constructor
  · intro all
    exact ⟨all .btc, all .usd⟩
  · rintro ⟨btc, usd⟩ (_ | _)
    · exact btc
    · exact usd

section Postings

variable (q : Selection) (entry : Entry)

@[simp] theorem postings_credit (account : LedgerAccountId) (amount : Int)
    (currency : WalletCurrency) (metadata : TxMetadata) :
    (entry.credit account amount currency metadata).postings =
      entry.postings ++ [.credited account currency amount] := by
  simp [Entry.postings, Entry.credit, Leg.posting, Posting.credited]

@[simp] theorem postings_debit (account : LedgerAccountId) (amount : Int)
    (currency : WalletCurrency) (metadata : TxMetadata) :
    (entry.debit account amount currency metadata).postings =
      entry.postings ++ [.debited account currency amount] := by
  simp [Entry.postings, Entry.debit, Leg.posting, Posting.debited]

@[simp] theorem postings_removeZeroAmountEntries :
    entry.removeZeroAmountEntries.postings = entry.postings.filter Posting.moves := by
  simp [Entry.postings, Entry.removeZeroAmountEntries, List.filter_map, Function.comp_def,
    Posting.moves, Leg.posting]

theorem netOver_inNumbers : netOver q entry.inNumbers.transactions =
    movedOver q entry.postings := by
  unfold Entry.inNumbers Entry.postings
  induction entry.transactions with
  | nil => rfl
  | cons leg legs ih =>
    rw [List.map_cons, netOver_cons, ih, List.map_cons, movedOver_cons]
    rfl

theorem movedOver_moves (postings : List Posting) :
    movedOver q (postings.filter Posting.moves) = movedOver q postings := by
  induction postings with
  | nil => rfl
  | cons posting postings ih =>
    by_cases moves : posting.moves = true
    · rw [List.filter_cons_of_pos moves, movedOver_cons, movedOver_cons, ih]
    · have zero : posting.debit = 0 ∧ posting.credit = 0 := not_not.mp (mt Posting.moves_iff.mpr moves)
      have nothing : posting.net = 0 := by simp [Posting.net, zero]
      rw [List.filter_cons_of_neg moves, ih, movedOver_cons, nothing, ite_self, zero_add]

theorem sound_iff {entry : Entry} {postings : List Posting}
    (legs : entry.postings = postings.filter Posting.moves)
    (nonneg : ∀ posting ∈ postings, posting.Nonneg) :
    entry.inNumbers.Sound ↔ ∀ currency, movedOver (inCurrency currency) postings = 0 := by
  have moved (currency : WalletCurrency) :
      entry.inNumbers.credits currency - entry.inNumbers.debits currency =
        movedOver (inCurrency currency) postings := by
    rw [← movedOver_moves, ← legs, ← netOver_inNumbers, credit_sub_debit]
    rfl
  have each {leg : Leg} (member : leg ∈ entry.inNumbers.transactions) :
      ∃ posting ∈ postings, posting.moves ∧ leg.debit = toNumber posting.debit ∧
        leg.credit = toNumber posting.credit := by
    obtain ⟨exactLeg, there, rfl⟩ := List.mem_map.mp member
    have kept : exactLeg.posting ∈ postings.filter Posting.moves := legs ▸ List.mem_map_of_mem there
    obtain ⟨inPostings, moves⟩ := List.mem_filter.mp kept
    exact ⟨exactLeg.posting, inPostings, moves, rfl, rfl⟩
  constructor
  · intro sound currency
    rw [← moved, sound.balanced, sub_self]
  · intro balanced
    refine ⟨fun currency => ?_, fun leg member => ?_, fun leg member => ?_⟩
    · have none := moved currency
      rw [balanced] at none
      linarith
    · obtain ⟨posting, _, moves, debit, credit⟩ := each member
      rw [debit, credit, toNumber_eq_zero, toNumber_eq_zero]
      exact Posting.moves_iff.mp moves
    · obtain ⟨posting, there, _, debit, credit⟩ := each member
      rw [debit, credit]
      exact ⟨toNumber_nonneg (nonneg posting there).1, toNumber_nonneg (nonneg posting there).2⟩

end Postings

def SplitsExactly (amount fee : Int) : Prop :=
  toNumber amount = toNumber (amount - fee) + toNumber fee

theorem splitsExactly_iff {amount fee : Int} :
    SplitsExactly amount fee ↔ toNumber fee + (-toNumber amount + toNumber (amount - fee)) = 0 := by
  unfold SplitsExactly
  constructor <;> intro same <;> linarith

theorem splitsExactly_of_lt {amount fee : Int} (nonneg : 0 ≤ fee) (le : fee ≤ amount)
    (small : amount < 2 ^ 53) : SplitsExactly amount fee := by
  unfold SplitsExactly
  rw [toNumber_exact (by omega), toNumber_exact (by omega), toNumber_exact (by omega)]
  push_cast
  ring

def conversionPostings (ids : StaticAccountIds) (total : AmountWithFees) (fee : BankFee) :
    WalletCurrency → WalletCurrency → List Posting
  | .btc, .btc => []
  | .btc, .usd =>
    [.credited ids.dealerBtcAccountId .btc (total.inCurrency .btc - fee.inCurrency .btc),
      .debited ids.dealerUsdAccountId .usd (total.inCurrency .usd - fee.inCurrency .usd)]
  | .usd, .btc =>
    [.debited ids.dealerBtcAccountId .btc (total.inCurrency .btc),
      .credited ids.dealerUsdAccountId .usd (total.inCurrency .usd)]
  | .usd, .usd =>
    if fee.inCurrency .usd > 0 then
      [.debited ids.dealerBtcAccountId .btc (fee.inCurrency .btc),
        .credited ids.dealerUsdAccountId .usd (fee.inCurrency .usd)]
    else []

section Stages

theorem postings_withBankFee (builder : EntryBuilderFee) (bankFee : BankFee)
    (nonneg : 0 ≤ bankFee.inCurrency .btc) :
    (builder.withBankFee bankFee).entry.postings.filter Posting.moves =
      (builder.entry.postings ++
        [Posting.credited builder.staticAccountIds.bankOwnerAccountId .btc
          (bankFee.inCurrency .btc)]).filter
        Posting.moves := by
  unfold BankFee.inCurrency at *
  dsimp only at *
  by_cases positive : bankFee.btcBankFee.amount > 0
  · simp [EntryBuilderFee.withBankFee, positive]
  · have zero : bankFee.btcBankFee.amount = 0 := by omega
    simp [EntryBuilderFee.withBankFee, zero, Posting.moves]

theorem postings_debitAccount (builder : EntryBuilderDebit) (debited : LedgerAccountDescriptor)
    (additional : AdditionalMetadata) :
    (builder.debitAccount debited additional).entry.postings =
      builder.entry.postings ++
        [.debited debited.id debited.currency
          (builder.amountWithFees.inCurrency debited.currency)] := by
  rcases debited with ⟨id, currency⟩
  cases currency <;> simp [EntryBuilderDebit.debitAccount, AmountWithFees.inCurrency]

theorem postings_withConversion (builder : EntryBuilderCredit) (creditCurrency : WalletCurrency) :
    (builder.withConversion creditCurrency).postings =
      builder.entry.postings ++
        conversionPostings builder.staticAccountIds builder.amountWithFees builder.bankFee
          builder.debitCurrency creditCurrency := by
  unfold EntryBuilderCredit.withConversion
  cases builder.debitCurrency <;> cases creditCurrency
  case btc.btc => simp [conversionPostings]
  case btc.usd =>
    simp only [addBtcToUsdConversionToDealer, postings_debit, postings_credit, List.append_assoc]
    rfl
  case usd.btc =>
    simp only [addUsdToBtcConversionToEntry, postings_debit, postings_credit, List.append_assoc]
    rfl
  case usd.usd =>
    by_cases charged : builder.bankFee.usdBankFee.amount > 0 <;>
      simp [addUsdToBtcConversionToEntry, conversionPostings, BankFee.inCurrency, charged]

theorem postings_creditAccount (builder : EntryBuilderCredit) (credited : LedgerAccountDescriptor) :
    (builder.creditAccount credited).postings =
      (builder.entry.postings ++
        conversionPostings builder.staticAccountIds builder.amountWithFees builder.bankFee
          builder.debitCurrency credited.currency ++
        [Posting.credited credited.id credited.currency
          (builder.amountWithFees.inCurrency credited.currency -
            builder.bankFee.inCurrency credited.currency)]).filter Posting.moves := by
  rcases credited with ⟨id, currency⟩
  unfold EntryBuilderCredit.creditAccount
  cases currency <;>
    simp only [postings_removeZeroAmountEntries, postings_credit, postings_withConversion] <;> rfl

end Stages

inductive EntryDebit where
  | account (accountDescriptor : LedgerAccountDescriptor) (additionalMetadata : AdditionalMetadata)
  | lnd
  | coldStorage

inductive EntryCredit where
  | account (accountDescriptor : LedgerAccountDescriptor)
  | lnd
  | coldStorage

def EntryBuilderDebit.debit (builder : EntryBuilderDebit) : EntryDebit → EntryBuilderCredit
  | .account accountDescriptor additionalMetadata =>
    builder.debitAccount accountDescriptor additionalMetadata
  | .lnd => builder.debitLnd
  | .coldStorage => builder.debitColdStorage

def EntryBuilderCredit.credit (builder : EntryBuilderCredit) : EntryCredit → Entry
  | .account accountDescriptor => builder.creditAccount accountDescriptor
  | .lnd => builder.creditLnd
  | .coldStorage => builder.creditColdStorage

def EntryDebit.descriptor : EntryDebit → LedgerAccountDescriptor
  | .account accountDescriptor _ => accountDescriptor
  | .lnd => lndLedgerAccountDescriptor
  | .coldStorage => coldStorageAccountDescriptor

def EntryDebit.additionalMetadata : EntryDebit → AdditionalMetadata
  | .account _ additionalMetadata => additionalMetadata
  | .lnd | .coldStorage => {}

def EntryCredit.descriptor : EntryCredit → LedgerAccountDescriptor
  | .account accountDescriptor => accountDescriptor
  | .lnd => lndLedgerAccountDescriptor
  | .coldStorage => coldStorageAccountDescriptor

structure EntryChain where
  staticAccountIds : StaticAccountIds
  description : String
  metadata : TxMetadata
  amountWithFees : AmountWithFees
  bankFee : BankFee
  debit : EntryDebit
  credit : EntryCredit
  fee_nonneg : ∀ currency, 0 ≤ bankFee.inCurrency currency
  fee_le : ∀ currency, bankFee.inCurrency currency ≤ amountWithFees.inCurrency currency

namespace EntryChain

variable (chain : EntryChain)

def entry : Entry :=
  let builder : EntryBuilder :=
    { staticAccountIds := chain.staticAccountIds
      entry := { description := chain.description }
      metadata := chain.metadata }
  builder.withTotalAmount chain.amountWithFees
    |>.withBankFee chain.bankFee
    |>.debit chain.debit
    |>.credit chain.credit

def debitCurrency : WalletCurrency := chain.debit.descriptor.currency

def creditCurrency : WalletCurrency := chain.credit.descriptor.currency

def total (currency : WalletCurrency) : Int := chain.amountWithFees.inCurrency currency

def fee (currency : WalletCurrency) : Int := chain.bankFee.inCurrency currency

def postings : List Posting :=
  [.credited chain.staticAccountIds.bankOwnerAccountId .btc (chain.fee .btc),
    .debited chain.debit.descriptor.id chain.debitCurrency (chain.total chain.debitCurrency)] ++
    conversionPostings chain.staticAccountIds chain.amountWithFees chain.bankFee chain.debitCurrency
      chain.creditCurrency ++
    [.credited chain.credit.descriptor.id chain.creditCurrency
      (chain.total chain.creditCurrency - chain.fee chain.creditCurrency)]

theorem entry_postings : chain.entry.postings = chain.postings.filter Posting.moves := by
  have debit (builder : EntryBuilderDebit) :
      builder.debit chain.debit = builder.debitAccount chain.debit.descriptor
        chain.debit.additionalMetadata := by
    cases chain.debit <;> rfl
  have credit (builder : EntryBuilderCredit) :
      builder.credit chain.credit = builder.creditAccount chain.credit.descriptor := by
    cases chain.credit <;> rfl
  unfold entry
  dsimp only
  rw [debit, credit, postings_creditAccount, postings_debitAccount]
  simp only [List.filter_append, postings_withBankFee _ _ (chain.fee_nonneg .btc)]
  simp only [← List.filter_append]
  rfl

theorem postings_nonneg : ∀ posting ∈ chain.postings, posting.Nonneg := by
  have nonneg (currency : WalletCurrency) : 0 ≤ chain.fee currency := chain.fee_nonneg currency
  have le (currency : WalletCurrency) : chain.fee currency ≤ chain.total currency :=
    chain.fee_le currency
  have total (currency : WalletCurrency) : 0 ≤ chain.total currency :=
    (nonneg currency).trans (le currency)
  have conversion :
      ∀ posting ∈ conversionPostings chain.staticAccountIds chain.amountWithFees chain.bankFee
        chain.debitCurrency chain.creditCurrency, posting.Nonneg := by
    unfold EntryChain.total EntryChain.fee at *
    cases chain.debitCurrency <;> cases chain.creditCurrency <;>
      simp only [conversionPostings]
    case usd.usd => split_ifs <;> simp [nonneg]
    all_goals simp [le, total]
  intro posting member
  simp only [postings, List.mem_append, List.mem_cons, List.not_mem_nil, or_false] at member
  rcases member with ((rfl | rfl) | converted) | rfl
  · simp [nonneg]
  · simp [total]
  · exact conversion posting converted
  · simp [le]

def splitCurrency : WalletCurrency :=
  match chain.debitCurrency, chain.creditCurrency with
  | .usd, .usd => .usd
  | _, _ => .btc

def UnconvertedFee : Prop :=
  chain.debitCurrency = .usd ∧ chain.creditCurrency = .usd ∧ chain.fee .usd = 0 ∧ 0 < chain.fee .btc

theorem entry_sound_iff :
    chain.entry.inNumbers.Sound ↔
      SplitsExactly (chain.total chain.splitCurrency) (chain.fee chain.splitCurrency) ∧
        ¬chain.UnconvertedFee := by
  rw [sound_iff chain.entry_postings chain.postings_nonneg, forall_currency, splitsExactly_iff]
  unfold splitCurrency UnconvertedFee postings total fee
  cases chain.debitCurrency <;> cases chain.creditCurrency
  case btc.btc => simp [conversionPostings, Posting.net]
  case btc.usd => simp [conversionPostings, Posting.net]
  case usd.btc => simp [conversionPostings, Posting.net]
  case usd.usd =>
    have sats := chain.fee_nonneg .btc
    have cents := chain.fee_nonneg .usd
    by_cases charged : chain.bankFee.inCurrency .usd > 0
    · simp [conversionPostings, Posting.net, charged, charged.ne', add_left_comm]
    · have free : chain.bankFee.inCurrency .usd = 0 := by omega
      have none : chain.bankFee.inCurrency .btc = 0 ↔ chain.bankFee.inCurrency .btc ≤ 0 := by omega
      simp [conversionPostings, Posting.net, free, none]

end EntryChain

inductive LegacyDebit : WalletCurrency → Type where
  | account {currency : WalletCurrency} (accountId : LedgerAccountId) (amount : Amount currency)
      (additionalMetadata : AdditionalMetadata) : LegacyDebit currency
  | lnd (amount : BtcPaymentAmount) : LegacyDebit .btc

inductive LegacyCredit : WalletCurrency → Type where
  | btcLnd : LegacyCredit .btc
  | btcAccount (accountId : LedgerAccountId) (amount : Option UsdPaymentAmount) : LegacyCredit .btc
  | usdLnd (btcCreditAmount : BtcPaymentAmount) : LegacyCredit .usd
  | usdAccount (accountId : LedgerAccountId) (amount : Option BtcPaymentAmount) : LegacyCredit .usd

def LegacyEntryBuilderDebit.debit {currency : WalletCurrency} (builder : LegacyEntryBuilderDebit) :
    LegacyDebit currency → LegacyEntryBuilderCredit currency
  | .account accountId amount additionalMetadata =>
    builder.debitAccount accountId amount additionalMetadata
  | .lnd amount => builder.debitLnd amount

def LegacyEntryBuilderCredit.credit : {currency : WalletCurrency} →
    LegacyEntryBuilderCredit currency →
    LegacyCredit currency → Entry
  | _, builder, .btcLnd => LegacyEntryBuilderCreditWithBtcDebit.creditLnd builder
  | _, builder, .btcAccount accountId amount =>
    LegacyEntryBuilderCreditWithBtcDebit.creditAccount builder accountId amount
  | _, builder, .usdLnd btcCreditAmount =>
    LegacyEntryBuilderCreditWithUsdDebit.creditLnd builder btcCreditAmount
  | _, builder, .usdAccount accountId amount =>
    LegacyEntryBuilderCreditWithUsdDebit.creditAccount builder accountId amount

namespace LegacyDebit

variable {currency : WalletCurrency}

def accountId : LegacyDebit currency → LedgerAccountId
  | .account accountId _ _ => accountId
  | .lnd _ => .lnd

def amount : LegacyDebit currency → Amount currency
  | .account _ amount _ => amount
  | .lnd amount => amount

end LegacyDebit

namespace LegacyCredit

@[simp] def converted : {currency : WalletCurrency} → LegacyCredit currency → Option Int
  | _, .btcLnd => none
  | _, .btcAccount _ amount => amount.map (·.amount)
  | _, .usdLnd btcCreditAmount => some btcCreditAmount.amount
  | _, .usdAccount _ amount => amount.map (·.amount)

@[simp] def sats (debited : Int) : {currency : WalletCurrency} → LegacyCredit currency → Option Int
  | .btc, _ => some debited
  | .usd, credit => credit.converted

@[simp] def creditCurrency : {currency : WalletCurrency} → LegacyCredit currency → WalletCurrency
  | _, .btcLnd => .btc
  | _, .btcAccount _ amount => if amount.isSome then .usd else .btc
  | _, .usdLnd _ => .btc
  | _, .usdAccount _ amount => if amount.isSome then .btc else .usd

@[simp] def postings (ids : StaticAccountIds) (debited fee : Int) :
    {currency : WalletCurrency} → LegacyCredit currency → List Posting
  | _, .btcLnd => [.credited .lnd .btc (debited - fee)]
  | _, .btcAccount accountId none => [.credited accountId .btc (debited - fee)]
  | _, .btcAccount accountId (some amount) =>
    [.credited ids.dealerBtcAccountId .btc debited, .debited ids.dealerUsdAccountId .usd
      amount.amount, .credited accountId .usd amount.amount]
  | _, .usdLnd btcCreditAmount =>
    [.debited ids.dealerBtcAccountId .btc btcCreditAmount.amount,
      .credited ids.dealerUsdAccountId .usd debited, .credited .lnd .btc
      (btcCreditAmount.amount - fee)]
  | _, .usdAccount accountId (some amount) =>
    [.debited ids.dealerBtcAccountId .btc amount.amount,
      .credited ids.dealerUsdAccountId .usd debited, .credited accountId .btc (amount.amount - fee)]
  | _, .usdAccount accountId none => [.credited accountId .usd debited]

end LegacyCredit

section LegacyStages

variable {currency : WalletCurrency}

theorem postings_withFee (builder : LegacyEntryBuilder) (fee : BtcPaymentAmount)
    (nonneg : 0 ≤ fee.amount) :
    (builder.withFee fee).entry.postings.filter Posting.moves =
      (builder.entry.postings ++
        [Posting.credited builder.staticAccountIds.bankOwnerAccountId .btc fee.amount]).filter
        Posting.moves := by
  by_cases positive : fee.amount > 0
  · simp [LegacyEntryBuilder.withFee, positive]
  · have zero : fee.amount = 0 := by omega
    simp [LegacyEntryBuilder.withFee, zero, Posting.moves]

theorem postings_legacyDebit (builder : LegacyEntryBuilderDebit) (debit : LegacyDebit currency) :
    (builder.debit debit).entry.postings =
      builder.entry.postings ++ [.debited debit.accountId currency debit.amount.amount] := by
  cases debit with
  | account accountId amount additionalMetadata => exact postings_debit ..
  | lnd amount => exact postings_debit ..

theorem legacyDebit_kept (builder : LegacyEntryBuilderDebit) (debit : LegacyDebit currency) :
    (builder.debit debit).debitAmount = debit.amount ∧ (builder.debit debit).fee = builder.fee ∧
      (builder.debit debit).staticAccountIds = builder.staticAccountIds := by
  cases debit <;> exact ⟨rfl, rfl, rfl⟩

theorem postings_legacyCredit (builder : LegacyEntryBuilderCredit currency)
    (credit : LegacyCredit currency) :
    (builder.credit credit).postings =
      (builder.entry.postings ++ credit.postings builder.staticAccountIds builder.debitAmount.amount
        builder.fee.amount).filter Posting.moves := by
  cases credit with
  | btcLnd =>
    simp only [LegacyEntryBuilderCredit.credit, LegacyEntryBuilderCreditWithBtcDebit.creditLnd,
      postings_removeZeroAmountEntries, postings_credit]
    rfl
  | btcAccount accountId amount =>
    cases amount <;>
      simp only [LegacyEntryBuilderCredit.credit,
        LegacyEntryBuilderCreditWithBtcDebit.creditAccount, addUsdToDealer,
        addBtcToUsdConversionToDealer, postings_removeZeroAmountEntries, postings_credit,
        postings_debit, List.append_assoc] <;>
      rfl
  | usdLnd btcCreditAmount =>
    simp only [LegacyEntryBuilderCredit.credit, LegacyEntryBuilderCreditWithUsdDebit.creditLnd,
      withdrawUsdFromDealer, addUsdToBtcConversionToEntry, postings_removeZeroAmountEntries,
      postings_credit, postings_debit, List.append_assoc]
    rfl
  | usdAccount accountId amount =>
    cases amount <;>
      simp only [LegacyEntryBuilderCredit.credit,
        LegacyEntryBuilderCreditWithUsdDebit.creditAccount, withdrawUsdFromDealer,
        addUsdToBtcConversionToEntry, postings_removeZeroAmountEntries,
        postings_credit, postings_debit, List.append_assoc] <;>
      rfl

end LegacyStages

structure LegacyChain where
  staticAccountIds : StaticAccountIds
  description : String
  metadata : TxMetadata
  withFee : Option BtcPaymentAmount
  debitCurrency : WalletCurrency
  debit : LegacyDebit debitCurrency
  credit : LegacyCredit debitCurrency
  fee_nonneg : 0 ≤ (withFee.getD zeroSats).amount
  debit_nonneg : 0 ≤ debit.amount.amount
  converted_nonneg : ∀ amount ∈ credit.converted, 0 ≤ amount
  fee_le : ∀ sats ∈ credit.sats debit.amount.amount, (withFee.getD zeroSats).amount ≤ sats

namespace LegacyChain

variable (chain : LegacyChain)

def entry : Entry :=
  let builder : LegacyEntryBuilder :=
    { staticAccountIds := chain.staticAccountIds
      entry := { description := chain.description }
      metadata := chain.metadata }
  let builderDebit :=
    match chain.withFee with
    | some fee => builder.withFee fee
    | none => builder.withoutFee
  (builderDebit.debit chain.debit).credit chain.credit

def fee : Int := (chain.withFee.getD zeroSats).amount

def sats : Option Int := chain.credit.sats chain.debit.amount.amount

def creditCurrency : WalletCurrency := chain.credit.creditCurrency

def postings : List Posting :=
  [.credited chain.staticAccountIds.bankOwnerAccountId .btc chain.fee,
    .debited chain.debit.accountId chain.debitCurrency chain.debit.amount.amount] ++
    chain.credit.postings chain.staticAccountIds chain.debit.amount.amount chain.fee

theorem entry_postings : chain.entry.postings = chain.postings.filter Posting.moves := by
  have charged (builder : LegacyEntryBuilder) :
      (match chain.withFee with | some fee => builder.withFee fee | none => builder.withoutFee) =
        builder.withFee (chain.withFee.getD zeroSats) := by
    cases chain.withFee <;> rfl
  unfold entry
  dsimp only
  obtain ⟨amount, fee, ids⟩ := legacyDebit_kept
    (LegacyEntryBuilder.withFee ⟨chain.staticAccountIds, { description := chain.description },
      chain.metadata⟩ (chain.withFee.getD zeroSats)) chain.debit
  rw [charged, postings_legacyCredit, postings_legacyDebit, amount, fee, ids]
  simp only [List.filter_append, postings_withFee _ _ chain.fee_nonneg]
  simp only [← List.filter_append]
  rfl

theorem postings_nonneg : ∀ posting ∈ chain.postings, posting.Nonneg := by
  obtain ⟨ids, description, metadata, withFee, debitCurrency, debit, credit, fee, debited,
      converted, le⟩ := chain
  unfold postings LegacyChain.fee
  cases credit with
  | btcLnd =>
    have covered := le _ rfl
    simp [fee, debited, covered]
  | btcAccount accountId amount =>
    have covered := le _ rfl
    cases amount with
    | none => simp [fee, debited, covered]
    | some amount =>
      have nonneg := converted _ rfl
      simp [fee, debited, nonneg]
  | usdLnd btcCreditAmount =>
    have covered := le _ rfl
    have nonneg := converted _ rfl
    simp [fee, debited, covered, nonneg]
  | usdAccount accountId amount =>
    cases amount with
    | none => simp [fee, debited]
    | some amount =>
      have covered := le _ rfl
      have nonneg := converted _ rfl
      simp [fee, debited, covered, nonneg]

theorem entry_sound_iff :
    chain.entry.inNumbers.Sound ↔
      (∀ sats ∈ chain.sats, SplitsExactly sats chain.fee) ∧
        (chain.creditCurrency = .usd → chain.fee = 0) := by
  rw [sound_iff chain.entry_postings chain.postings_nonneg, forall_currency]
  obtain ⟨ids, description, metadata, withFee, debitCurrency, debit, credit, fee, debited,
      converted, le⟩ := chain
  unfold postings LegacyChain.fee LegacyChain.sats LegacyChain.creditCurrency
  dsimp only
  cases credit with
  | btcLnd => simp [splitsExactly_iff, Posting.net]
  | btcAccount accountId amount =>
    cases amount with
    | none => simp [splitsExactly_iff, Posting.net]
    | some amount =>
      simp +contextual [splitsExactly_iff, Posting.net]
  | usdLnd btcCreditAmount => simp [splitsExactly_iff, Posting.net]
  | usdAccount accountId amount =>
    cases amount with
    | none => simp [splitsExactly_iff, Posting.net]
    | some amount =>
      simp [splitsExactly_iff, Posting.net]

end LegacyChain

theorem chain_entries_sound_iff (chain : EntryChain) (legacy : LegacyChain) :
    (chain.entry.inNumbers.Sound ↔
      SplitsExactly (chain.total chain.splitCurrency) (chain.fee chain.splitCurrency) ∧
      ¬chain.UnconvertedFee) ∧
    (legacy.entry.inNumbers.Sound ↔
      (∀ sats ∈ legacy.sats, SplitsExactly sats legacy.fee) ∧
      (legacy.creditCurrency = .usd → legacy.fee = 0)) :=
  ⟨chain.entry_sound_iff, legacy.entry_sound_iff⟩

def namedAccountIds : StaticAccountIds :=
  ⟨toLedgerAccountId "bankOwner", toLedgerAccountId "dealerBtc", toLedgerAccountId "dealerUsd"⟩

theorem chain_entries_sound_cent :
    (∃ chain : EntryChain, chain.debitCurrency = .usd ∧ chain.creditCurrency = .usd ∧
      chain.amountWithFees = ⟨⟨20⟩, ⟨2000⟩⟩ ∧ chain.bankFee = ⟨⟨1⟩, ⟨110⟩⟩ ∧
      chain.entry.inNumbers.Sound) ∧
    ∃ legacy : LegacyChain, legacy.sats = some 2000 ∧ legacy.fee = 111 ∧
      legacy.entry.inNumbers.Sound := by
  let chain : EntryChain :=
    { staticAccountIds := namedAccountIds
      description := ""
      metadata := { type := .intraLedger, pending := false }
      amountWithFees := ⟨⟨20⟩, ⟨2000⟩⟩
      bankFee := ⟨⟨1⟩, ⟨110⟩⟩
      debit := .account ⟨toLedgerAccountId "debitor", .usd⟩ {}
      credit := .account ⟨toLedgerAccountId "creditor", .usd⟩
      fee_nonneg := by rintro (_ | _) <;> decide
      fee_le := by rintro (_ | _) <;> decide }
  let legacy : LegacyChain :=
    { staticAccountIds := namedAccountIds
      description := ""
      metadata := { type := .invoice, pending := false }
      withFee := some ⟨111⟩
      debitCurrency := .btc
      debit := .lnd ⟨2000⟩
      credit := .btcAccount (toLedgerAccountId "creditor") none
      fee_nonneg := by decide
      debit_nonneg := by decide
      converted_nonneg := by decide
      fee_le := by decide }
  obtain ⟨soundIff, legacySoundIff⟩ := chain_entries_sound_iff chain legacy
  refine ⟨⟨chain, rfl, rfl, rfl, rfl, soundIff.mpr ⟨?_, ?_⟩⟩, legacy, rfl, rfl,
    legacySoundIff.mpr ⟨?_, ?_⟩⟩
  · exact splitsExactly_of_lt (by decide) (by decide) (by decide)
  · rintro ⟨_, _, free, _⟩
    exact absurd free (by decide)
  · rintro _ ⟨⟩
    exact splitsExactly_of_lt (by decide) (by decide) (by decide)
  · intro usd
    exact absurd usd (by decide)

theorem chain_entries_unconverted_fee :
    (∃ chain : EntryChain, chain.debitCurrency = .usd ∧ chain.creditCurrency = .usd ∧
      chain.amountWithFees = ⟨⟨20⟩, ⟨2000⟩⟩ ∧ chain.bankFee = ⟨⟨0⟩, ⟨10⟩⟩ ∧
      chain.entry.inNumbers.debits .btc = 0 ∧ chain.entry.inNumbers.credits .btc = 10 ∧
      ¬chain.entry.inNumbers.Sound) ∧
    ∃ chain : LegacyChain, chain.debitCurrency = .btc ∧ chain.creditCurrency = .usd ∧
      chain.sats = some 2000 ∧ chain.fee = 10 ∧
      chain.entry.inNumbers.debits .btc = 2000 ∧ chain.entry.inNumbers.credits .btc = 2010 ∧
      ¬chain.entry.inNumbers.Sound := by
  constructor
  · refine ⟨
      { staticAccountIds := namedAccountIds
        description := ""
        metadata := { type := .intraLedger, pending := false }
        amountWithFees := ⟨⟨20⟩, ⟨2000⟩⟩
        bankFee := ⟨⟨0⟩, ⟨10⟩⟩
        debit := .account ⟨toLedgerAccountId "debitor", .usd⟩ {}
        credit := .account ⟨toLedgerAccountId "creditor", .usd⟩
        fee_nonneg := by rintro (_ | _) <;> decide
        fee_le := by rintro (_ | _) <;> decide },
      rfl, rfl, rfl, rfl, by decide +kernel, by decide +kernel, fun sound => ?_⟩
    exact absurd (sound.balanced .btc) (by decide +kernel)
  · refine ⟨
      { staticAccountIds := namedAccountIds
        description := ""
        metadata := { type := .invoice, pending := false }
        withFee := some ⟨10⟩
        debitCurrency := .btc
        debit := .lnd ⟨2000⟩
        credit := .btcAccount (toLedgerAccountId "creditor") (some ⟨20⟩)
        fee_nonneg := by decide
        debit_nonneg := by decide
        converted_nonneg := by decide
        fee_le := by decide },
      rfl, rfl, rfl, rfl, by decide +kernel, by decide +kernel, fun sound => ?_⟩
    exact absurd (sound.balanced .btc) (by decide +kernel)

end Galoy
