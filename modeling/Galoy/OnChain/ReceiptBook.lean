import Galoy.Ledger.Journals
import Galoy.OnChain.UpdateOnChainReceipt
import Mathlib.Data.List.Perm.Subperm

set_option autoImplicit false

namespace Galoy.OnChain

open Interleave

abbrev Payment := List OnChainAddress × ℚ

def receipt? (credited : LedgerAccountId → Bool) (txHash : OnChainTxHash) (journal : Journal) :
    Option Payment :=
  (journal.legs.find? fun leg => isReceiptOf txHash leg && credited leg.account &&
    leg.credit ≠ 0).map fun leg => (leg.metadata.payeeAddresses, (journal.legs.map (·.debit)).sum)

def receipts (credited : LedgerAccountId → Bool) (txHash : OnChainTxHash) (ledger : Ledger) :
    List Payment :=
  ledger.journals.filterMap (receipt? credited txHash)

def anyWallet (account : LedgerAccountId) : Bool := account.mainAccount = .liabilities

def onlyWallet (walletId : WalletId) (account : LedgerAccountId) : Bool :=
  account = toLedgerAccountId walletId

def OnChainTransaction.payments (tx : OnChainTransaction) : List Payment :=
  tx.outs.filterMap fun out => out.address.map fun address => ([address], (out.sats : ℚ))

def Wallet.payment? (wallet : Wallet) (out : TxOut) : Option Payment :=
  (wallet.paidBy out).map fun address => ([address], (out.sats : ℚ))

def Wallet.payments (wallet : Wallet) (outs : List TxOut) : List Payment :=
  outs.filterMap wallet.payment?

def receiptJournals (txHash : OnChainTxHash) (ledger : Ledger) : List Journal :=
  ledger.journals.filter fun journal => journal.legs.any (isReceiptOf txHash)

section Queries

variable {credited : LedgerAccountId → Bool} {txHash : OnChainTxHash} {ledger after : Ledger}

theorem receipt?_of_other {journal : Journal}
    (other : journal.legs.any (isReceiptOf txHash) = false) :
    receipt? credited txHash journal = none := by
  simp only [List.any_eq_false] at other
  simp only [receipt?, Option.map_eq_none_iff, List.find?_eq_none]
  intro leg member
  simp [other leg member]

theorem receipts_eq :
    receipts credited txHash ledger = (receiptJournals txHash ledger).filterMap
      (receipt? credited txHash) := by
  unfold receipts receiptJournals
  induction ledger.journals with
  | nil => rfl
  | cons journal rest ih =>
    cases receipt : journal.legs.any (isReceiptOf txHash) with
    | true => simp [receipt, List.filterMap_cons, ih]
    | false => simp [receipt, receipt?_of_other receipt, ih]

theorem receipts_congr (same : receiptJournals txHash after = receiptJournals txHash ledger) :
    receipts credited txHash after = receipts credited txHash ledger := by
  rw [receipts_eq, receipts_eq, same]

theorem receiptJournals_of_fresh (fresh : ∀ leg ∈ ledger.legs, isReceiptOf txHash leg = false) :
    receiptJournals txHash ledger = [] := by
  simp only [receiptJournals, List.filter_eq_nil_iff, List.any_eq_true, not_exists, not_and]
  intro journal member leg within
  simp [fresh leg (Ledger.mem_legs.mpr ⟨journal, member, within⟩)]

def Recorded (walletId : WalletId) (txHash : OnChainTxHash) (ledger : Ledger) : Prop :=
  ∃ journal ∈ receiptJournals txHash ledger, ∃ leg ∈ journal.legs,
    leg.account = toLedgerAccountId walletId ∧ isReceiptOf txHash leg = true

theorem isOnChainTxRecorded_iff {w : World} {walletId : WalletId} :
    w.isOnChainTxRecorded walletId txHash = true ↔ Recorded walletId txHash w.ledger := by
  simp only [World.isOnChainTxRecorded, Ledger.legs, List.any_flatMap, List.any_eq_true,
    Bool.and_eq_true, decide_eq_true_eq, Recorded, receiptJournals, List.mem_filter]
  constructor
  · rintro ⟨journal, member, leg, within, account, receipt⟩
    exact ⟨journal, ⟨member, leg, within, receipt⟩, leg, within, account, receipt⟩
  · rintro ⟨journal, ⟨member, _⟩, leg, within, account, receipt⟩
    exact ⟨journal, member, leg, within, account, receipt⟩

theorem Recorded.congr {walletId : WalletId}
    (same : receiptJournals txHash after = receiptJournals txHash ledger) :
    Recorded walletId txHash after ↔ Recorded walletId txHash ledger := by
  rw [Recorded, same, ← Recorded]

theorem Recorded.grow {walletId : WalletId} (recorded : Recorded walletId txHash ledger)
    (grown : ledger.journals <+: after.journals) : Recorded walletId txHash after := by
  obtain ⟨journal, member, found⟩ := recorded
  obtain ⟨old, receipt⟩ := List.mem_filter.mp member
  exact ⟨journal, List.mem_filter.mpr ⟨grown.subset old, receipt⟩, found⟩

theorem receipts_of_unrecorded {walletId : WalletId}
    (unrecorded : ¬Recorded walletId txHash ledger) :
    receipts (onlyWallet walletId) txHash ledger = [] := by
  rw [receipts_eq, List.filterMap_eq_nil_iff]
  intro journal member
  simp only [receipt?, Option.map_eq_none_iff, List.find?_eq_none, Bool.and_eq_true]
  rintro leg within ⟨⟨receipt, account⟩, _⟩
  exact unrecorded ⟨journal, member, leg, within, of_decide_eq_true account, receipt⟩

theorem receipts_grow (grown : ledger.journals <+: after.journals) :
    receipts credited txHash ledger <+: receipts credited txHash after := by
  obtain ⟨added, appended⟩ := grown
  exact ⟨added.filterMap (receipt? credited txHash), by simp [receipts, ← appended]⟩

end Queries

section Commit

variable {bank : BankWallets} {args : LedgerService.AddOnChainTxReceiveArgs} {entry : Entry}

def receiptMetadata (args : LedgerService.AddOnChainTxReceiveArgs) : TxMetadata :=
  { type := .onchainReceipt, pending := false, hash := some args.txHash, fee := some args.fee,
    feeUsd := some args.feeDisplayCurrency, usd := some args.amountDisplayCurrency,
    payeeAddresses := [args.receivingAddress] }

def receiptLegs (bankOwner credited : LedgerAccountId) (fee sats : ℚ) (metadata : TxMetadata) :
    List Leg :=
  let feeLegs : List Leg := if fee > 0 then [⟨bankOwner, 0, fee, .btc, metadata⟩] else []
  feeLegs ++ [⟨.lnd, sats, 0, .btc, metadata⟩, ⟨credited, 0, sats - max fee 0, .btc, metadata⟩]

def nonzero (leg : Leg) : Bool := ¬(leg.debit = 0 ∧ leg.credit = 0)

theorem transactions_removeZeroAmountEntries (entry : Entry) :
    entry.removeZeroAmountEntries.transactions = entry.transactions.filter nonzero := rfl

theorem btc_receipt_legs (builder : LegacyEntryBuilder) (fresh : builder.entry.transactions = [])
    (fee sats : BtcPaymentAmount) (nonneg : 0 ≤ fee.amount) (accountId : LedgerAccountId) :
    (LegacyEntryBuilderCreditWithBtcDebit.creditAccount ((builder.withFee fee).debitLnd sats)
      accountId).transactions =
      (receiptLegs builder.staticAccountIds.bankOwnerAccountId accountId fee.amount sats.amount
        builder.metadata).filter nonzero := by
  have charged : max (fee.amount : ℚ) 0 = fee.amount := max_eq_left (by exact_mod_cast nonneg)
  by_cases positive : fee.amount > 0 <;>
    simp [LegacyEntryBuilderCreditWithBtcDebit.creditAccount, LegacyEntryBuilder.withFee,
      LegacyEntryBuilderDebit.debitLnd, Entry.credit, Entry.debit,
      transactions_removeZeroAmountEntries, AmountCalculator.sub, fresh, positive,
      receiptLegs, charged]

theorem addOnChainTxReceive_legs (recorded : LedgerService.addOnChainTxReceive bank args =
    .ok entry) :
    entry.transactions =
      (receiptLegs (toLedgerAccountId bank.bankOwner) (toLedgerAccountId args.walletId)
        args.fee args.sats (receiptMetadata args)).filter nonzero := by
  unfold LedgerService.addOnChainTxReceive LedgerService.addReceipt at recorded
  split at recorded
  · rename_i charged
    unfold LedgerService.addReceiptFee at recorded
    dsimp only at recorded charged
    split at recorded
    · cases recorded
    · obtain ⟨fee, feeConverted, rest⟩ := bind_eq_ok recorded
      obtain ⟨sats, satsConverted, built⟩ := bind_eq_ok rest
      cases built
      have feeExact := paymentAmountFromNumber_exact feeConverted
      have satsExact := paymentAmountFromNumber_exact satsConverted
      have nonneg : 0 ≤ fee.amount := by
        rw [← feeExact] at charged
        exact_mod_cast charged.le
      rw [btc_receipt_legs _ rfl fee sats nonneg, feeExact, satsExact]
      rfl
  · rename_i free
    unfold LedgerService.addReceiptNoFee at recorded
    dsimp only at recorded free
    obtain ⟨sats, satsConverted, rest⟩ := bind_eq_ok recorded
    have satsExact := paymentAmountFromNumber_exact satsConverted
    cases currency : args.walletCurrency with
    | usd =>
      rw [currency] at rest
      cases rest
    | btc =>
      rw [currency] at rest
      cases rest
      have none : max args.fee 0 = max 0 0 := by simpa using free
      rw [LegacyEntryBuilder.withoutFee, btc_receipt_legs _ rfl zeroSats sats le_rfl, satsExact]
      simp [receiptLegs, free, zeroSats, none]
      rfl

theorem debits_filter_nonzero (legs : List Leg) :
    ((legs.filter nonzero).map (·.debit)).sum = (legs.map (·.debit)).sum := by
  induction legs with
  | nil => rfl
  | cons leg rest ih =>
    by_cases kept : nonzero leg
    · simp [kept, ih]
    · have zero : leg.debit = 0 := by
        simp only [nonzero, Bool.not_eq_true, decide_eq_false_iff_not, not_not] at kept
        exact kept.1
      simp [kept, ih, zero]

theorem isReceiptOf_receive (recorded : LedgerService.addOnChainTxReceive bank args = .ok entry)
    (txHash : OnChainTxHash) {leg : Leg} (member : leg ∈ entry.transactions) :
    leg.metadata = receiptMetadata args ∧ isReceiptOf txHash leg =
      decide (args.txHash = txHash) := by
  rw [addOnChainTxReceive_legs recorded] at member
  have unfiltered := List.mem_of_mem_filter member
  have tagged : leg.metadata = receiptMetadata args := by
    by_cases charged : args.fee > 0 <;>
      simp only [receiptLegs, charged, if_true, if_false, List.nil_append, List.cons_append,
        List.mem_cons, List.not_mem_nil, or_false] at unfiltered
    · rcases unfiltered with rfl | rfl | rfl <;> rfl
    · rcases unfiltered with rfl | rfl <;> rfl
  exact ⟨tagged, by simp [isReceiptOf, tagged, receiptMetadata]⟩

theorem account_receive (recorded : LedgerService.addOnChainTxReceive bank args = .ok entry)
    {leg : Leg} (member : leg ∈ entry.transactions) :
    (leg.account = toLedgerAccountId bank.bankOwner ∧ 0 < args.fee) ∨ leg.account = .lnd ∨
      leg.account = toLedgerAccountId args.walletId := by
  rw [addOnChainTxReceive_legs recorded] at member
  have unfiltered := List.mem_of_mem_filter member
  by_cases charged : args.fee > 0 <;>
    simp only [receiptLegs, charged, if_true, if_false, List.nil_append, List.cons_append,
      List.mem_cons, List.not_mem_nil, or_false] at unfiltered
  · rcases unfiltered with rfl | rfl | rfl <;> simp [charged]
  · rcases unfiltered with rfl | rfl <;> simp

variable {ledger : Ledger} {run : RunId} {clock : Nat} {credited : LedgerAccountId → Bool}

theorem receipts_commit (txHash : OnChainTxHash) :
    receipts credited txHash (ledger.commit run clock entry) =
      receipts credited txHash ledger ++
        (receipt? credited txHash (ledger.newJournal run clock entry)).toList := by
  simp only [receipts, Ledger.journals_commit, List.filterMap_append]
  cases receipt : receipt? credited txHash (ledger.newJournal run clock entry) <;> simp [receipt]

def credits (credited : LedgerAccountId → Bool) (bank : BankWallets)
    (args : LedgerService.AddOnChainTxReceiveArgs) : Prop :=
  (credited (toLedgerAccountId bank.bankOwner) ∧ 0 < args.fee) ∨
    (credited (toLedgerAccountId args.walletId) ∧ args.sats - max args.fee 0 ≠ 0)

theorem credits_iff (recorded : LedgerService.addOnChainTxReceive bank args = .ok entry) :
    credits credited bank args ↔
      ∃ leg ∈ entry.transactions, credited leg.account = true ∧ leg.credit ≠ 0 := by
  have unfiltered : ∀ legs : List Leg,
      (∃ leg ∈ legs.filter nonzero, credited leg.account = true ∧ leg.credit ≠ 0) ↔
        ∃ leg ∈ legs, credited leg.account = true ∧ leg.credit ≠ 0 := by
    intro legs
    constructor
    · rintro ⟨leg, member, account, credit⟩
      exact ⟨leg, List.mem_of_mem_filter member, account, credit⟩
    · rintro ⟨leg, member, account, credit⟩
      exact ⟨leg, List.mem_filter.mpr ⟨member, by simp [nonzero, credit]⟩, account, credit⟩
  rw [addOnChainTxReceive_legs recorded, unfiltered]
  by_cases charged : 0 < args.fee
  · have present : args.fee ≠ 0 := charged.ne'
    simp [credits, receiptLegs, charged, present]
  · simp [credits, receiptLegs, charged]

theorem debits_receive (recorded : LedgerService.addOnChainTxReceive bank args = .ok entry) :
    (entry.transactions.map (·.debit)).sum = args.sats := by
  rw [addOnChainTxReceive_legs recorded, debits_filter_nonzero]
  by_cases charged : 0 < args.fee <;> simp [receiptLegs, charged]

theorem receipt?_receive (recorded : LedgerService.addOnChainTxReceive bank args = .ok entry)
    (txHash : OnChainTxHash) (payment : Payment) :
    receipt? credited txHash (ledger.newJournal run clock entry) = some payment ↔
      args.txHash = txHash ∧ credits credited bank args ∧
        payment = ([args.receivingAddress], args.sats) := by
  have sum := debits_receive recorded
  simp only [receipt?, Option.map_eq_some_iff, Ledger.newJournal, sum]
  constructor
  · rintro ⟨leg, found, rfl⟩
    have member := List.mem_of_find?_eq_some found
    obtain ⟨tagged, receipt⟩ := isReceiptOf_receive recorded txHash member
    have matched := List.find?_some found
    simp only [receipt, Bool.and_eq_true, decide_eq_true_eq] at matched
    obtain ⟨⟨same, account⟩, credit⟩ := matched
    refine ⟨same, (credits_iff recorded).mpr ⟨leg, member, account, credit⟩, ?_⟩
    simp [tagged, receiptMetadata]
  · rintro ⟨same, credits, rfl⟩
    obtain ⟨leg, member, account, credit⟩ := (credits_iff recorded).mp credits
    have matches_ : (isReceiptOf txHash leg && credited leg.account && decide (leg.credit ≠ 0)) =
        true := by
      simp [(isReceiptOf_receive recorded txHash member).2, same, account, credit]
    cases found : entry.transactions.find? fun leg =>
        isReceiptOf txHash leg && credited leg.account && decide (leg.credit ≠ 0) with
    | none => exact absurd matches_ (List.find?_eq_none.mp found leg member)
    | some first =>
      have tagged := (isReceiptOf_receive recorded txHash (List.mem_of_find?_eq_some found)).1
      exact ⟨first, rfl, by simp [tagged, receiptMetadata]⟩

end Commit

section Output

variable {tx : OnChainTransaction} {wallet : Wallet} {account : Account} {displayCurrencyPerSat : ℚ}
  {out : TxOut} {address : OnChainAddress} {run : RunId} {now : Nat} {entry : Entry}

theorem paidBy_mem (paid : wallet.paidBy out = some address) :
    out.address = some address ∧ address ∈ wallet.onChainAddresses := by
  simpa [Wallet.paidBy, Option.filter_eq_some_iff] using paid

theorem payments_append (wallet : Wallet) (done : List TxOut) (out : TxOut) :
    wallet.payments (done ++ [out]) = wallet.payments done ++ (wallet.payment? out).toList := by
  cases paid : wallet.payment? out <;> simp [Wallet.payments, paid]

theorem receipt?_output {credited : LedgerAccountId → Bool} {ledger : Ledger} {bank : BankWallets}
    (built : LedgerService.addOnChainTxReceive bank
      (receiveArgs wallet tx.txHash account displayCurrencyPerSat out.sats address) = .ok entry)
    {payment : Payment}
    (receipt : receipt? credited tx.txHash (ledger.newJournal run now entry) = some payment) :
    payment = ([address], (out.sats : ℚ)) ∧ credits credited bank
      (receiveArgs wallet tx.txHash account displayCurrencyPerSat out.sats address) := by
  obtain ⟨_, credits, rfl⟩ := (receipt?_receive built tx.txHash payment).mp receipt
  exact ⟨rfl, credits⟩

theorem credits_own {bank : BankWallets}
    (leaves : onChainDepositFee out.sats account.depositFeeRatio ≠ out.sats) :
    credits (onlyWallet wallet.id) bank
      (receiveArgs wallet tx.txHash account displayCurrencyPerSat out.sats address) := by
  refine .inr ⟨by simp [onlyWallet, receiveArgs], ?_⟩
  rcases le_total (onChainDepositFee out.sats account.depositFeeRatio) 0 with free | charged
  · have none : max (onChainDepositFee out.sats account.depositFeeRatio : ℚ) 0 = 0 :=
      max_eq_right (by exact_mod_cast free)
    have present : out.sats ≠ 0 := by
      intro empty
      simp [empty, onChainDepositFee_zero] at leaves
    simpa [receiveArgs, none] using present
  · have whole : max (onChainDepositFee out.sats account.depositFeeRatio : ℚ) 0 =
        onChainDepositFee out.sats account.depositFeeRatio :=
          max_eq_left (by exact_mod_cast charged)
    simp only [receiveArgs, whole, ne_eq, sub_eq_zero]
    exact_mod_cast leaves.symm

theorem addOnChainTxReceive_builds (bank : BankWallets) (btc : wallet.currency = .btc) :
    ∃ entry, LedgerService.addOnChainTxReceive bank
      (receiveArgs wallet tx.txHash account displayCurrencyPerSat out.sats address) =
        .ok entry := by
  have sats : paymentAmountFromNumber .btc (out.sats : ℚ) = .ok ⟨out.sats⟩ := by
    exact_mod_cast paymentAmountFromNumber_int .btc out.sats
  have fee := paymentAmountFromNumber_int .btc (onChainDepositFee out.sats account.depositFeeRatio)
  unfold LedgerService.addOnChainTxReceive LedgerService.addReceipt
  split
  · simp only [LedgerService.addReceiptFee, receiveArgs, btc, sats, fee]
    exact ⟨_, rfl⟩
  · simp only [LedgerService.addReceiptNoFee, receiveArgs, btc, sats]
    exact ⟨_, rfl⟩

end Output

end Galoy.OnChain
