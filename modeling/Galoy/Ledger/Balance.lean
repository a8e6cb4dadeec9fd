import Galoy.Ledger.Facade
import Mathlib.Algebra.BigOperators.Group.List.Basic
import Mathlib.Tactic.Ring
import Mathlib.Tactic.Linarith

set_option autoImplicit false

namespace Galoy

open AmountCalculator

theorem paymentAmountFromNumber_exact {currency : WalletCurrency} {number : ℚ}
    {amount : Amount currency} (converted : paymentAmountFromNumber currency number = .ok amount) :
    (amount.amount : ℚ) = number := by
  unfold paymentAmountFromNumber safeBigInt at converted
  by_cases whole : number.den = 1
  · simp only [whole, if_true] at converted
    cases converted
    exact Rat.coe_int_num_of_den_eq_one whole
  · simp [whole] at converted

theorem paymentAmountFromNumber_int (currency : WalletCurrency) (amount : Int) :
    paymentAmountFromNumber currency (amount : ℚ) = .ok ⟨amount⟩ := by
  simp [paymentAmountFromNumber, safeBigInt]

abbrev Selection := LedgerAccountId → WalletCurrency → Bool

def netOver (q : Selection) (legs : List Leg) : ℚ :=
  ((legs.filter fun leg => q leg.account leg.currency).map Leg.net).sum

section NetOver

variable (q : Selection)

@[simp] theorem netOver_nil : netOver q [] = 0 := rfl

theorem netOver_cons (leg : Leg) (legs : List Leg) :
    netOver q (leg :: legs) = (if q leg.account leg.currency then leg.net else 0) +
      netOver q legs := by
  by_cases selected : q leg.account leg.currency <;> simp [netOver, selected]

@[simp] theorem netOver_append (first second : List Leg) :
    netOver q (first ++ second) = netOver q first + netOver q second := by
  simp [netOver, List.filter_append]

theorem netOver_map_of_kept (change : Leg → Leg)
    (kept : ∀ leg, (change leg).account = leg.account ∧ (change leg).currency = leg.currency ∧
      (change leg).net = leg.net) (legs : List Leg) :
    netOver q (legs.map change) = netOver q legs := by
  induction legs with
  | nil => rfl
  | cons leg legs ih => simp only [List.map_cons, netOver_cons, ih, kept]

@[simp] theorem netOver_map_settle (legs : List Leg) :
    netOver q (legs.map Leg.settle) = netOver q legs :=
  netOver_map_of_kept q Leg.settle (fun _ => ⟨rfl, rfl, rfl⟩) legs

@[simp] theorem netOver_map_settleFor (hash : PaymentHash) (legs : List Leg) :
    netOver q (legs.map (Leg.settleFor hash)) = netOver q legs := by
  refine netOver_map_of_kept q (Leg.settleFor hash) (fun leg => ?_) legs
  unfold Leg.settleFor
  split <;> exact ⟨rfl, rfl, rfl⟩

@[simp] theorem netOver_map_reversed (legs : List Leg) :
    netOver q (legs.map Leg.reversed) = -netOver q legs := by
  induction legs with
  | nil => simp
  | cons leg legs ih =>
    simp only [List.map_cons, netOver_cons, ih, Leg.reversed, Leg.net]
    split <;> ring

theorem netOver_flatMap_zero {α : Type} (f : α → List Leg) (xs : List α)
    (zero : ∀ x ∈ xs, netOver q (f x) = 0) : netOver q (xs.flatMap f) = 0 := by
  induction xs with
  | nil => rfl
  | cons x xs ih =>
    rw [List.flatMap_cons, netOver_append, zero x (by simp),
      ih fun y member => zero y (by simp [member]), add_zero]

@[simp] theorem netOver_credit (entry : Entry) (account : LedgerAccountId) (amount : ℚ)
    (currency : WalletCurrency) (metadata : TxMetadata) :
    netOver q (entry.credit account amount currency metadata).transactions =
      netOver q entry.transactions + if q account currency then amount else 0 := by
  simp [Entry.credit, netOver_cons, Leg.net]

@[simp] theorem netOver_debit (entry : Entry) (account : LedgerAccountId) (amount : ℚ)
    (currency : WalletCurrency) (metadata : TxMetadata) :
    netOver q (entry.debit account amount currency metadata).transactions =
      netOver q entry.transactions - if q account currency then amount else 0 := by
  simp only [Entry.debit, netOver_append, netOver_cons, netOver_nil, Leg.net]
  split <;> ring

@[simp] theorem netOver_removeZeroAmountEntries (entry : Entry) :
    netOver q entry.removeZeroAmountEntries.transactions = netOver q entry.transactions := by
  unfold Entry.removeZeroAmountEntries
  induction entry.transactions with
  | nil => rfl
  | cons leg legs ih =>
    by_cases zero : leg.debit = 0 ∧ leg.credit = 0
    · simpa [netOver_cons, zero, Leg.net] using ih
    · simp only [List.filter_cons, zero, not_false_eq_true, decide_true, if_true, netOver_cons]
      simpa using ih

end NetOver

def AmountWithFees.inCurrency (amounts : AmountWithFees) : WalletCurrency → Int
  | .btc => amounts.btcWithFees.amount
  | .usd => amounts.usdWithFees.amount

def BankFee.inCurrency (bankFee : BankFee) : WalletCurrency → Int
  | .btc => bankFee.btcBankFee.amount
  | .usd => bankFee.usdBankFee.amount

section Builder

variable (q : Selection)

def dealerNet (ids : StaticAccountIds) (btc usd : Int) : ℚ :=
  (if q ids.dealerBtcAccountId .btc then (btc : ℚ) else 0) -
    if q ids.dealerUsdAccountId .usd then (usd : ℚ) else 0

def conversionNet (ids : StaticAccountIds) (total : AmountWithFees) (fee : BankFee) :
    WalletCurrency → WalletCurrency → ℚ
  | .btc, .btc => 0
  | .btc, .usd =>
    dealerNet q ids (total.inCurrency .btc - fee.inCurrency .btc)
      (total.inCurrency .usd - fee.inCurrency .usd)
  | .usd, .btc => -dealerNet q ids (total.inCurrency .btc) (total.inCurrency .usd)
  | .usd, .usd =>
    if fee.inCurrency .usd > 0 then -dealerNet q ids (fee.inCurrency .btc) (fee.inCurrency .usd)
    else 0

theorem netOver_withBankFee (builder : EntryBuilderFee) (bankFee : BankFee)
    (nonneg : 0 ≤ bankFee.inCurrency .btc) :
    netOver q (builder.withBankFee bankFee).entry.transactions =
      netOver q builder.entry.transactions +
        if q builder.staticAccountIds.bankOwnerAccountId .btc then (bankFee.inCurrency .btc : ℚ)
        else 0 := by
  unfold BankFee.inCurrency at *
  by_cases positive : bankFee.btcBankFee.amount > 0
  · simp [EntryBuilderFee.withBankFee, positive]
  · have zero : bankFee.btcBankFee.amount = 0 := by dsimp only at nonneg; omega
    simp [EntryBuilderFee.withBankFee, zero]

theorem netOver_debitAccount (builder : EntryBuilderDebit) (debited : LedgerAccountDescriptor)
    (additional : AdditionalMetadata) :
    netOver q (builder.debitAccount debited additional).entry.transactions =
      netOver q builder.entry.transactions -
        if q debited.id debited.currency then
          (builder.amountWithFees.inCurrency debited.currency : ℚ) else 0 := by
  rcases debited with ⟨id, currency⟩
  cases currency <;> simp [EntryBuilderDebit.debitAccount, AmountWithFees.inCurrency]

theorem netOver_addBtcToUsdConversion (ids : StaticAccountIds) (entry : Entry)
    (metadata : TxMetadata) (btcAmount : BtcPaymentAmount) (usdAmount : UsdPaymentAmount) :
    netOver q
        (addBtcToUsdConversionToDealer ids entry metadata btcAmount usdAmount).transactions =
      netOver q entry.transactions + dealerNet q ids btcAmount.amount usdAmount.amount := by
  simp only [addBtcToUsdConversionToDealer, netOver_debit, netOver_credit, dealerNet]
  ring

theorem netOver_addUsdToBtcConversion (ids : StaticAccountIds) (entry : Entry)
    (metadata : TxMetadata) (btcAmount : BtcPaymentAmount) (usdAmount : UsdPaymentAmount) :
    netOver q (addUsdToBtcConversionToEntry ids entry metadata btcAmount usdAmount).transactions =
      netOver q entry.transactions - dealerNet q ids btcAmount.amount usdAmount.amount := by
  simp only [addUsdToBtcConversionToEntry, netOver_debit, netOver_credit, dealerNet]
  ring

theorem netOver_withConversion (builder : EntryBuilderCredit) (creditCurrency : WalletCurrency) :
    netOver q (builder.withConversion creditCurrency).transactions =
      netOver q builder.entry.transactions +
        conversionNet q builder.staticAccountIds builder.amountWithFees builder.bankFee
          builder.debitCurrency creditCurrency := by
  unfold EntryBuilderCredit.withConversion
  cases builder.debitCurrency <;> cases creditCurrency
  case btc.btc => simp [conversionNet]
  case btc.usd => exact netOver_addBtcToUsdConversion ..
  case usd.btc =>
    rw [conversionNet, ← sub_eq_add_neg]
    exact netOver_addUsdToBtcConversion ..
  case usd.usd =>
    by_cases charged : builder.bankFee.usdBankFee.amount > 0
    · simp only [conversionNet, BankFee.inCurrency, charged, if_true, ← sub_eq_add_neg]
      exact netOver_addUsdToBtcConversion ..
    · simp [conversionNet, BankFee.inCurrency, charged]

theorem netOver_creditAccount (builder : EntryBuilderCredit) (credited : LedgerAccountDescriptor) :
    netOver q (builder.creditAccount credited).transactions =
      netOver q builder.entry.transactions +
        conversionNet q builder.staticAccountIds builder.amountWithFees builder.bankFee
          builder.debitCurrency credited.currency +
        if q credited.id credited.currency then
          ((builder.amountWithFees.inCurrency credited.currency -
            builder.bankFee.inCurrency credited.currency : Int) : ℚ) else 0 := by
  rcases credited with ⟨id, currency⟩
  cases currency <;>
    simp [EntryBuilderCredit.creditAccount, netOver_withConversion, AmountWithFees.inCurrency,
      BankFee.inCurrency, sub]

theorem netOver_builder (builder : EntryBuilder) (total : AmountWithFees) (fee : BankFee)
    (nonneg : 0 ≤ fee.inCurrency .btc) (debited credited : LedgerAccountDescriptor)
    (additional : AdditionalMetadata) :
    netOver q ((((builder.withTotalAmount total).withBankFee fee).debitAccount debited
        additional).creditAccount credited).transactions =
      netOver q builder.entry.transactions +
        (if q builder.staticAccountIds.bankOwnerAccountId .btc then (fee.inCurrency .btc : ℚ)
          else 0) -
        (if q debited.id debited.currency then (total.inCurrency debited.currency : ℚ) else 0) +
        conversionNet q builder.staticAccountIds total fee debited.currency credited.currency +
        if q credited.id credited.currency then
          ((total.inCurrency credited.currency - fee.inCurrency credited.currency : Int) : ℚ)
        else 0 := by
  rw [netOver_creditAccount, netOver_debitAccount, netOver_withBankFee q _ _ nonneg]
  rfl

theorem netOver_builder_free (builder : EntryBuilder) (total : AmountWithFees)
    (debited credited : LedgerAccountDescriptor) (additional : AdditionalMetadata) :
    netOver q ((((builder.withTotalAmount total).withBankFee zeroBankFee).debitAccount debited
        additional).creditAccount credited).transactions =
      netOver q builder.entry.transactions -
        (if q debited.id debited.currency then (total.inCurrency debited.currency : ℚ) else 0) +
        conversionNet q builder.staticAccountIds total zeroBankFee debited.currency
          credited.currency +
        if q credited.id credited.currency then (total.inCurrency credited.currency : ℚ)
          else 0 := by
  have free (currency : WalletCurrency) : zeroBankFee.inCurrency currency = 0 := by
    cases currency <;> rfl
  rw [netOver_builder q builder total zeroBankFee (free .btc).ge, free, free]
  simp

end Builder

namespace Ledger

@[simp] theorem legs_commit (ledger : Ledger) (run : Interleave.RunId) (clock : Nat)
    (entry : Entry) :
    (ledger.commit run clock entry).legs = ledger.legs ++ entry.transactions := by
  simp [legs, commit]

@[simp] theorem legs_settlePending (ledger : Ledger) (run : Interleave.RunId) (hash : PaymentHash) :
    (ledger.settlePending run hash).legs = ledger.legs.map (Leg.settleFor hash) := by
  simp [legs, settlePending, Journal.settleFor, List.flatMap_map, List.map_flatMap]

@[simp] theorem legs_markVoided (journal : Journal) (id : LedgerJournalId) :
    (journal.markVoided id).legs = journal.legs := by
  unfold Journal.markVoided
  split <;> rfl

@[simp] theorem legs_map_markVoided (journals : List Journal) (id : LedgerJournalId) :
    (journals.map (Journal.markVoided id)).flatMap (·.legs) = journals.flatMap (·.legs) := by
  simp [List.flatMap_map]

theorem void_inversion {ledger after : Ledger} {run : Interleave.RunId} {clock : Nat}
    {id : LedgerJournalId} {reason : String}
    (voided : ledger.void run clock id reason = some after) :
    ∃ original, ledger.journal? id = some original ∧ original.voided = false ∧
      after.settles = ledger.settles ∧
      after.journals = ledger.journals.map (Journal.markVoided id) ++
        [{ id := ledger.journals.length, description := reason,
           legs := original.legs.map Leg.reversed, timestamp := clock,
           originalJournal := some id, writtenBy := run }] := by
  unfold void at voided
  split at voided
  · cases voided
  · rename_i original found
    split at voided
    · cases voided
    · rename_i active
      cases voided
      exact ⟨original, found, by simpa using active, rfl, rfl⟩

theorem legs_void {ledger after : Ledger} {run : Interleave.RunId} {clock : Nat}
    {id : LedgerJournalId} {reason : String}
    (voided : ledger.void run clock id reason = some after) :
    ∃ original, ledger.journal? id = some original ∧
      after.legs = ledger.legs ++ original.legs.map Leg.reversed := by
  obtain ⟨original, found, _, _, journals⟩ := void_inversion voided
  refine ⟨original, found, ?_⟩
  simp [legs, journals]

theorem journal?_mem {ledger : Ledger} {id : LedgerJournalId} {journal : Journal}
    (found : ledger.journal? id = some journal) : journal ∈ ledger.journals :=
  List.mem_of_find?_eq_some found

theorem balance_eq_netOver (ledger : Ledger) (account : LedgerAccountId) :
    ledger.balance account = netOver (fun a _ => a = account) ledger.legs := by
  simp [balance, netOver]

theorem mainBalance_eq_netOver (ledger : Ledger) (account : MainAccount)
    (currency : WalletCurrency) :
    ledger.mainBalance account currency =
      netOver (fun a c => a.mainAccount = account && c = currency) ledger.legs := by
  simp [mainBalance, netOver]

end Ledger

end Galoy
