import Galoy.App.World
import Galoy.Ledger.Customers
import Galoy.Ledger.Entries
import Mathlib.Algebra.Order.BigOperators.Group.List

set_option autoImplicit false

namespace Galoy

open Interleave AmountCalculator

def TxnGroup.counts (group : TxnGroup) (walletId : WalletId) (leg : Leg) : Bool :=
  leg.account = toLedgerAccountId walletId ∧ leg.metadata.type ∈ group.types

def legSum (side : Leg → ℚ) (counted : Leg → Bool) (legs : List Leg) : ℚ :=
  ((legs.filter counted).map side).sum

def outgoing : (Leg → Bool) → List Leg → ℚ := legSum (·.debit)

def incoming : (Leg → Bool) → List Leg → ℚ := legSum (·.credit)

theorem legSum_map {side changed : Leg → ℚ} {counted : Leg → Bool} {change : Leg → Leg}
    (same : ∀ leg, counted (change leg) = counted leg ∧ side (change leg) = changed leg)
    (legs : List Leg) : legSum side counted (legs.map change) = legSum changed counted legs := by
  have selected : counted ∘ change = counted := funext fun leg => (same leg).1
  have values : side ∘ change = changed := funext fun leg => (same leg).2
  rw [legSum, List.filter_map, List.map_map, selected, values]
  rfl

section Sides

variable {side : Leg → ℚ} {counted : Leg → Bool}

@[simp] theorem legSum_nil : legSum side counted [] = 0 := rfl

theorem legSum_cons (leg : Leg) (legs : List Leg) :
    legSum side counted (leg :: legs) = (if counted leg then side leg else 0) +
      legSum side counted legs := by
  by_cases selected : counted leg <;> simp [legSum, selected]

theorem legSum_filter {kept : Leg → Bool} (zero : ∀ leg, kept leg = false → side leg = 0)
    (legs : List Leg) : legSum side counted (legs.filter kept) = legSum side counted legs := by
  induction legs with
  | nil => rfl
  | cons leg rest ih =>
    cases keeps : kept leg with
    | true => simp [keeps, legSum_cons, ih]
    | false => simp [keeps, legSum_cons, ih, zero leg keeps]

end Sides

section Outgoing

variable (counted : Leg → Bool)

@[simp] theorem outgoing_nil : outgoing counted [] = 0 := rfl

theorem outgoing_cons (leg : Leg) (legs : List Leg) :
    outgoing counted (leg :: legs) = (if counted leg then leg.debit else 0) +
      outgoing counted legs :=
  legSum_cons leg legs

theorem outgoing_append (legs more : List Leg) :
    outgoing counted (legs ++ more) = outgoing counted legs + outgoing counted more := by
  simp [outgoing, legSum]

@[simp] theorem outgoing_credit (entry : Entry) (account : LedgerAccountId) (amount : ℚ)
    (currency : WalletCurrency) (metadata : TxMetadata) :
    outgoing counted (entry.credit account amount currency metadata).transactions =
      outgoing counted entry.transactions := by
  simp [Entry.credit, outgoing_append, outgoing_cons]

@[simp] theorem outgoing_debit (entry : Entry) (account : LedgerAccountId) (amount : ℚ)
    (currency : WalletCurrency) (metadata : TxMetadata) :
    outgoing counted (entry.debit account amount currency metadata).transactions =
      outgoing counted entry.transactions +
        if counted ⟨account, amount, 0, currency, metadata⟩ then amount else 0 := by
  simp [Entry.debit, outgoing_append, outgoing_cons]

@[simp] theorem outgoing_removeZero (entry : Entry) :
    outgoing counted entry.removeZeroAmountEntries.transactions =
      outgoing counted entry.transactions := by
  refine legSum_filter (fun leg removed => ?_) entry.transactions
  exact (not_not.mp (of_decide_eq_false removed)).1

end Outgoing

def BankWallets.converting (bank : BankWallets) : WalletCurrency → WalletId
  | .btc => bank.dealerUsd
  | .usd => bank.dealerBtc

theorem outgoing_recordIntraledger (bank : BankWallets) (group : TxnGroup) (walletId : WalletId)
    (args : RecordIntraledgerArgs)
    (customer : bank.converting args.senderWalletDescriptor.currency ≠ walletId) :
    outgoing (group.counts walletId) (LedgerFacade.recordIntraledger bank args).transactions =
      if args.senderWalletDescriptor.id = walletId ∧ args.metadata.type ∈ group.types then
        (args.amount.inCurrency args.senderWalletDescriptor.currency : ℚ) else 0 := by
  rcases args with ⟨description, ⟨sender, debit, _⟩, ⟨recipient, credit, _⟩, ⟨btc, usd⟩,
    metadata, additional⟩
  cases debit <;> cases credit <;>
    simp [LedgerFacade.recordIntraledger, toLedgerAccountDescriptor, EntryBuilder.withTotalAmount,
      EntryBuilderFee.withBankFee, EntryBuilderDebit.debitAccount, EntryBuilderCredit.creditAccount,
      EntryBuilderCredit.withConversion, addBtcToUsdConversionToDealer,
      addUsdToBtcConversionToEntry,
      zeroBankFee, zeroSats, zeroCents, sub, Amounts.inCurrency, TxnGroup.counts,
      TxMetadata.override,
      BankWallets.staticAccountIds, BankWallets.converting, toLedgerAccountId] at customer ⊢
  all_goals exact fun same => absurd same customer

section Send

variable (bank : BankWallets) {group : TxnGroup} (args : RecordSendArgs)
  (type : args.metadata.type ∈ group.types) (noFee : args.bankFee = none)

include type noFee

theorem outgoing_recordSend (wellFormed : args.senderWalletDescriptor.currency = .usd →
      bank.dealerBtc ≠ args.senderWalletDescriptor.id) :
    outgoing (group.counts args.senderWalletDescriptor.id)
      (LedgerFacade.recordSend bank args).transactions =
      args.amountToDebitSender.inCurrency args.senderWalletDescriptor.currency := by
  rw [recordSend_transactions bank args noFee, outgoing,
    legSum_filter fun leg removed => (not_not.mp (of_decide_eq_false removed)).1]
  rcases args with ⟨description, ⟨sender, currency, _⟩, ⟨btc, usd⟩, bankFee, metadata⟩
  cases currency with
  | btc => simp [sendLegs, legSum_cons, TxnGroup.counts, type, Amounts.inCurrency]
  | usd =>
    have another := wellFormed rfl
    simp only at another
    simp [sendLegs, legSum_cons, TxnGroup.counts, type, Amounts.inCurrency,
      toLedgerAccountId, another]

theorem incoming_recordSend :
    incoming (group.counts args.senderWalletDescriptor.id)
      (LedgerFacade.recordSend bank args).transactions =
      if args.senderWalletDescriptor.currency = .usd ∧
        bank.dealerUsd = args.senderWalletDescriptor.id then
        (args.amountToDebitSender.inCurrency args.senderWalletDescriptor.currency : ℚ) else 0 := by
  rw [recordSend_transactions bank args noFee, incoming,
    legSum_filter fun leg removed => (not_not.mp (of_decide_eq_false removed)).2]
  rcases args with ⟨description, ⟨sender, currency, _⟩, ⟨btc, usd⟩, bankFee, metadata⟩
  cases currency with
  | btc => simp [sendLegs, legSum_cons, TxnGroup.counts, type, toLedgerAccountId]
  | usd =>
    simp [sendLegs, legSum_cons, TxnGroup.counts, type, Amounts.inCurrency, toLedgerAccountId]

end Send

def journalSum (side : Leg → ℚ) (counted : Leg → Bool) (window : Nat → Bool)
    (journals : List Journal) : ℚ :=
  ((journals.filter fun journal => window journal.timestamp).map fun journal =>
    legSum side counted journal.legs).sum

section Journals

variable {side : Leg → ℚ} {counted : Leg → Bool} {window : Nat → Bool}

theorem journalSum_append (journals more : List Journal) :
    journalSum side counted window (journals ++ more) =
      journalSum side counted window journals + journalSum side counted window more := by
  simp [journalSum]

theorem journalSum_singleton (journal : Journal) :
    journalSum side counted window [journal] =
      if window journal.timestamp then legSum side counted journal.legs else 0 := by
  by_cases inside : window journal.timestamp <;> simp [journalSum, inside]

theorem journalSum_map {change : Journal → Journal}
    (same : ∀ journal, (change journal).timestamp = journal.timestamp ∧
      legSum side counted (change journal).legs = legSum side counted journal.legs)
    (journals : List Journal) :
    journalSum side counted window (journals.map change) =
      journalSum side counted window journals := by
  have times : (fun journal : Journal => window journal.timestamp) ∘ change =
      fun journal => window journal.timestamp := funext fun journal => by simp [(same journal).1]
  have sums : (fun journal : Journal => legSum side counted journal.legs) ∘ change =
      fun journal => legSum side counted journal.legs := funext fun journal => (same journal).2
  rw [journalSum, List.filter_map, List.map_map, times, sums]
  rfl

end Journals

namespace Ledger

def outgoingWithin (ledger : Ledger) (group : TxnGroup) (walletId : WalletId)
    (window : Nat → Bool) : ℚ :=
  journalSum (·.debit) (group.counts walletId) window ledger.journals

def incomingWithin (ledger : Ledger) (group : TxnGroup) (walletId : WalletId)
    (window : Nat → Bool) : ℚ :=
  journalSum (·.credit) (group.counts walletId) window ledger.journals

def since (begins : Nat) (time : Nat) : Bool := begins ≤ time

def dayFrom (begins : Nat) (time : Nat) : Bool := begins ≤ time ∧ time ≤ begins + oneDay

section Within

variable {ledger : Ledger} {group : TxnGroup} {walletId : WalletId}

theorem outgoingWithin_commit (run : RunId) (clock : Nat) (entry : Entry) (window : Nat → Bool) :
    (ledger.commit run clock entry).outgoingWithin group walletId window =
      ledger.outgoingWithin group walletId window +
        if window clock then outgoing (group.counts walletId) entry.transactions else 0 := by
  rw [outgoingWithin, Ledger.commit, journalSum_append, journalSum_singleton]
  rfl

def NonnegOutgoing (ledger : Ledger) (group : TxnGroup) (walletId : WalletId) : Prop :=
  ∀ journal ∈ ledger.journals, 0 ≤ outgoing (group.counts walletId) journal.legs

theorem NonnegOutgoing.commit (nonneg : ledger.NonnegOutgoing group walletId) {entry : Entry}
    (debited : 0 ≤ outgoing (group.counts walletId) entry.transactions) (run : RunId)
    (clock : Nat) :
    (ledger.commit run clock entry).NonnegOutgoing group walletId := by
  intro journal member
  rcases List.mem_append.mp member with old | new
  · exact nonneg journal old
  · obtain rfl := List.mem_singleton.mp new
    exact debited

theorem outgoingWithin_mono (nonneg : ledger.NonnegOutgoing group walletId)
    {window wider : Nat → Bool} (covers : ∀ time, window time = true → wider time = true) :
    ledger.outgoingWithin group walletId window ≤ ledger.outgoingWithin group walletId wider := by
  refine List.Sublist.sum_le_sum ?_ ?_
  · refine List.Sublist.map _ (List.monotone_filter_right _ fun journal inside => ?_)
    exact covers journal.timestamp inside
  · intro amount member
    obtain ⟨journal, selected, rfl⟩ := List.mem_map.mp member
    exact nonneg journal (List.mem_of_mem_filter selected)

theorem outgoingWithin_eq_zero
    (unused : ∀ journal ∈ ledger.journals, outgoing (group.counts walletId) journal.legs = 0)
    (window : Nat → Bool) : ledger.outgoingWithin group walletId window = 0 := by
  refine List.sum_eq_zero fun amount member => ?_
  obtain ⟨journal, selected, rfl⟩ := List.mem_map.mp member
  exact unused journal (List.mem_of_mem_filter selected)

theorem volumeLegs_sum (side : Leg → ℚ) (begins : Nat) :
    ((ledger.volumeLegs group walletId begins).map side).sum =
      journalSum side (group.counts walletId) (since begins) ledger.journals := by
  have flat (journals : List Journal) :
      ((journals.flatMap fun journal => journal.legs.filter (group.counts walletId)).map side).sum =
        (journals.map fun journal => legSum side (group.counts walletId) journal.legs).sum := by
    induction journals with
    | nil => rfl
    | cons journal rest ih => simp [ih, legSum]
  exact flat _

theorem volumeAmountSince_eq (wallet : WalletDescriptor) (begins : Nat) :
    ledger.volumeAmountSince group wallet begins = do
      let outgoingBaseAmount ← paymentAmountFromNumber wallet.currency
        (ledger.outgoingWithin group wallet.id (since begins))
      let incomingBaseAmount ← paymentAmountFromNumber wallet.currency
        (ledger.incomingWithin group wallet.id (since begins))
      return { outgoingBaseAmount, incomingBaseAmount } := by
  simp only [volumeAmountSince, volumeLegs_sum]
  rfl

theorem volumeAmountSince_outgoing {wallet : WalletDescriptor} {begins : Nat}
    {volume : TxBaseVolumeAmount wallet.currency}
    (read : ledger.volumeAmountSince group wallet begins = .ok volume) :
    (volume.outgoingBaseAmount.amount : ℚ) = ledger.outgoingWithin group wallet.id
      (since begins) := by
  rw [volumeAmountSince_eq] at read
  obtain ⟨sent, converted, rest⟩ := bind_eq_ok read
  obtain ⟨received, _, built⟩ := bind_eq_ok rest
  cases built
  exact paymentAmountFromNumber_exact converted

end Within

end Ledger

end Galoy
