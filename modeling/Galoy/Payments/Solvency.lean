import Galoy.Payments.LnSendEntry
import Galoy.Payments.PendingRuns
import Galoy.Wallets.InvoiceRuns

set_option autoImplicit false

namespace Galoy

open Interleave App

inductive Activity where
  | lnSend (send : LnSend)
  | lnIntraledger (payment : LnIntraledgerPayment)
  | intraledger (payment : IntraledgerPayment)
  | invoices (invoiceRun : InvoiceRun)
  | pendingPayments (walletId : WalletId)

def Activity.prog (getAccountLimits : AccountLevel → AccountLimits) :
    Activity → Prog Call Reply Unit
  | .lnSend send => do
    let _ ← (send.prog getAccountLimits).run
    .pure ()
  | .lnIntraledger payment => do
    let _ ← (payment.prog getAccountLimits).run
    .pure ()
  | .intraledger payment => do
    let _ ← (payment.prog getAccountLimits).run
    .pure ()
  | .invoices invoiceRun => invoiceRun.prog
  | .pendingPayments walletId => do
    let _ ← (updatePendingPaymentsByWalletId walletId).run
    .pure ()

structure FlowOf (paymentFlow : PaymentFlow) (senderWallet : WalletDescriptor) : Prop where
  nonneg : paymentFlow.Nonneg
  sender : paymentFlow.senderWalletId = senderWallet.id

def Activity.Promised : Activity → Prop
  | .lnSend send => FlowOf send.paymentFlow send.senderWallet
  | .lnIntraledger payment => FlowOf payment.paymentFlow payment.senderWallet
  | .intraledger payment => FlowOf payment.paymentFlow payment.senderWallet
  | .invoices _ | .pendingPayments _ => True

def Leg.isPendingPayment (leg : Leg) : Bool := leg.metadata.pending && leg.metadata.type = .payment

structure TxMetadata.Nonneg (metadata : TxMetadata) : Prop where
  satsAmount : 0 ≤ metadata.satsAmount.getD 0
  centsAmount : 0 ≤ metadata.centsAmount.getD 0
  satsFee : 0 ≤ metadata.satsFee.getD 0
  centsFee : 0 ≤ metadata.centsFee.getD 0

structure Journal.Debits (walletId : WalletId) (hash : Option PaymentHash) (journal : Journal) :
    Prop where
  net : netOver (ofWallet walletId) journal.legs ≤ 0
  hash : ∀ leg ∈ journal.legs, leg.metadata.hash = hash

structure Books (walletId : WalletId) (w : World) : Prop where
  numbered : w.ledger.Numbered
  pending : ∀ journal ∈ w.ledger.journals, ∀ leg ∈ journal.legs, leg.isPendingPayment = true →
    journal.Debits walletId leg.metadata.hash ∧ leg.metadata.Nonneg
  flows : ∀ flow ∈ w.flows, flow.Nonneg
  invoices : ∀ paymentHash record cents, w.invoices paymentHash = some record →
    record.cents = some cents → 0 ≤ cents

structure Solvent (walletId : WalletId) (w : World) : Prop where
  customer : walletId ∉ w.bank.getDealerWalletIds
  books : Books walletId w
  balance : 0 ≤ w.balance walletId

-- The holder of the wallet's lock may rely on nobody else taking from the wallet.
def solvency (walletId : WalletId) : Discipline World where
  inv := Solvent walletId
  rely run before after := before.ledger.Grows after.ledger ∧
    (before.locks (.wallet walletId) = some run → after.locks (.wallet walletId) = some run ∧
      before.balance walletId ≤ after.balance walletId)
  rely_refl _ w := ⟨.refl _, fun held => ⟨held, le_refl _⟩⟩
  rely_trans _ _ _ _ first second := by
    refine ⟨first.1.trans second.1, fun held => ?_⟩
    obtain ⟨still, more⟩ := first.2 held
    obtain ⟨later, evenMore⟩ := second.2 still
    exact ⟨later, more.trans evenMore⟩

def dealerPrice : (c : Call) → Answer c → Option UsdPaymentAmount
  | .getCentsFromSatsForImmediateBuy _, .ok amount => some amount
  | _, _ => none

-- The dealer's price of received sats is not negative.
def dealerPricesNonneg : Permit services := fun _ _ c a =>
  ∀ price ∈ dealerPrice c a, 0 ≤ price.amount

namespace Solvency

variable {walletId : WalletId} {run : RunId}

section Stores

variable {before after : World}

theorem solvent_moved (good : Solvent walletId before) (bank : after.bank = before.bank)
    (ledger : after.ledger = before.ledger) (flows : ∀ flow ∈ after.flows, flow.Nonneg)
    (invoices : ∀ paymentHash record cents, after.invoices paymentHash = some record →
      record.cents = some cents → 0 ≤ cents) : Solvent walletId after := by
  refine ⟨by rw [bank]; exact good.customer, ⟨?_, ?_, flows, invoices⟩, ?_⟩
  · rw [ledger]
    exact good.books.numbered
  · rw [ledger]
    exact good.books.pending
  · unfold World.balance
    rw [ledger]
    exact good.balance

theorem balance_commit (w : World) (clock : Nat) (entry : Entry) :
    { w with clock, ledger := w.ledger.commit run clock entry }.balance walletId =
      w.balance walletId + netOver (ofWallet walletId) entry.transactions :=
  Ledger.balance_commit _ entry

theorem solvent_commit (good : Solvent walletId before) {clock : Nat} {entry : Entry}
    (covered : 0 ≤ before.balance walletId + netOver (ofWallet walletId) entry.transactions)
    (pending : ∀ leg ∈ entry.transactions, leg.isPendingPayment = true →
      (before.ledger.newJournal run clock entry).Debits walletId leg.metadata.hash ∧
        leg.metadata.Nonneg) :
    Solvent walletId { before with clock, ledger := before.ledger.commit run clock entry } := by
  refine ⟨good.customer, ⟨good.books.numbered.commit _ _ _, ?_, good.books.flows,
    good.books.invoices⟩, ?_⟩
  · intro journal member leg inJournal isPending
    rw [Ledger.journals_commit] at member
    rcases List.mem_append.mp member with old | new
    · exact good.books.pending journal old leg inJournal isPending
    · obtain rfl := List.mem_singleton.mp new
      exact pending leg inJournal isPending
  · rw [balance_commit]
    exact covered

theorem isPendingPayment_settle (leg : Leg) : leg.settle.isPendingPayment = false := rfl

theorem evolved_pending {journal later : Journal} (evolves : journal.Evolves later)
    (pending : ∀ leg ∈ journal.legs, leg.isPendingPayment = true →
      journal.Debits walletId leg.metadata.hash ∧ leg.metadata.Nonneg) :
    ∀ leg ∈ later.legs, leg.isPendingPayment = true →
      later.Debits walletId leg.metadata.hash ∧ leg.metadata.Nonneg := by
  intro leg member isPending
  obtain ⟨original, inJournal, rfl | rfl⟩ := evolves.leg_before member
  · obtain ⟨debits, nonneg⟩ := pending leg inJournal isPending
    exact ⟨⟨by rw [evolves.netOver]; exact debits.net, evolves.hash debits.hash⟩, nonneg⟩
  · rw [isPendingPayment_settle] at isPending
    cases isPending

theorem debits_evolves {hash : Option PaymentHash} (journal later : Journal)
    (evolves : journal.Evolves later) (debits : journal.Debits walletId hash) :
    later.Debits walletId hash :=
  ⟨by rw [evolves.netOver]; exact debits.net, evolves.hash debits.hash⟩

theorem solvent_settle (good : Solvent walletId before) (hash : PaymentHash) :
    Solvent walletId { before with ledger := before.ledger.settlePending run hash } := by
  refine ⟨good.customer, ⟨good.books.numbered.settlePending _ _, ?_, good.books.flows,
    good.books.invoices⟩, ?_⟩
  · intro journal member
    obtain ⟨original, inLedger, rfl⟩ := List.mem_map.mp member
    exact evolved_pending (.settleFor original hash) (good.books.pending original inLedger)
  · unfold World.balance
    dsimp only
    rw [Ledger.balance_settlePending]
    exact good.balance

structure Closed (walletId : WalletId) (journal : Journal) : Prop where
  net : netOver (ofWallet walletId) journal.legs ≤ 0
  settled : ∀ leg ∈ journal.legs, leg.metadata.pending = false

theorem closed_evolves (journal later : Journal) (evolves : journal.Evolves later)
    (closed : Closed walletId journal) : Closed walletId later :=
  ⟨by rw [evolves.netOver]; exact closed.net, evolves.settled closed.settled⟩

theorem balance_void (good : Solvent walletId before) {id : LedgerJournalId} {clock : Nat}
    {ledger : Ledger} (closed : before.ledger.Has id (Closed walletId))
    (voided : before.ledger.void run clock id "Payment canceled" = some ledger) :
    before.balance walletId ≤ { before with clock, ledger }.balance walletId := by
  obtain ⟨journal, at_, gives⟩ := closed
  obtain ⟨original, found, balance⟩ := Ledger.balance_void (toLedgerAccountId walletId) voided
  rw [Ledger.journal?_eq_getElem? good.books.numbered, at_] at found
  obtain rfl := Option.some.inj found
  have net : netOver (fun a _ => a = toLedgerAccountId walletId) journal.legs ≤ 0 := gives.net
  unfold World.balance
  dsimp only
  rw [balance]
  linarith

theorem solvent_void (good : Solvent walletId before) {id : LedgerJournalId} {clock : Nat}
    {ledger : Ledger} (closed : before.ledger.Has id (Closed walletId))
    (voided : before.ledger.void run clock id "Payment canceled" = some ledger) :
    Solvent walletId { before with clock, ledger } := by
  refine ⟨good.customer, ⟨good.books.numbered.void _ _ voided, ?_, good.books.flows,
    good.books.invoices⟩, le_trans good.balance (balance_void good closed voided)⟩
  obtain ⟨journal, at_, gives⟩ := closed
  obtain ⟨original, found, _, _, journals⟩ := Ledger.void_inversion voided
  rw [Ledger.journal?_eq_getElem? good.books.numbered, at_] at found
  obtain rfl := Option.some.inj found
  intro other member
  dsimp only at member
  rw [journals] at member
  rcases List.mem_append.mp member with old | new
  · obtain ⟨unmarked, inLedger, rfl⟩ := List.mem_map.mp old
    exact evolved_pending (.markVoided unmarked id) (good.books.pending unmarked inLedger)
  · -- The legs of the reversal have the flags of the legs that they mirror.
    obtain rfl := List.mem_singleton.mp new
    intro leg inReversal isPending
    obtain ⟨mirrored, inJournal, rfl⟩ := List.mem_map.mp inReversal
    have settled := gives.settled mirrored inJournal
    simp [Leg.isPendingPayment, Leg.reversed, settled] at isPending

end Stores

section Steps

variable {before after : World} {c : Call} {a : Answer c} {reply : Reply c}

theorem guaranteed (served : serve run before c a = some (reply, after))
    (kept : Solvent walletId after) (unlocked : before.locks (.wallet walletId) ≠ some run →
      before.balance walletId ≤ after.balance walletId) :
    (solvency walletId).Guaranteed run before after := by
  refine ⟨kept, fun other different => ⟨serve_grows served, fun held => ?_⟩⟩
  refine ⟨serve_lock served different held, unlocked ?_⟩
  rw [held]
  simpa using different

structure Credits (args : RecordReceiveArgs) : Prop where
  fee : 0 ≤ (LedgerFacade.actualFee args.bankFee).btc.amount
  amount : 0 ≤ args.amountToCreditReceiver.inCurrency args.recipientWalletDescriptor.currency
  settled : args.metadata.pending = false

def Benign : Call → Prop
  | .release _ | .recordSend _ | .recordIntraledger _ | .recordLnSendRevert _
  | .revertLightningPayment _ => False
  | .recordReceive args => Credits args
  | .updateLightningPaymentFlow flow => flow.Nonneg
  | _ => True

theorem reads_benign (c : Call) (reads : c.reads) : Benign c := by
  cases c <;> trivial

theorem receive_step {args : RecordReceiveArgs} {answer : TimedAnswer}
    {reply : Result LedgerJournalId} (credits : Credits args) (good : Solvent walletId before)
    (served : before.commit run (LedgerFacade.recordReceive before.bank args) answer =
      some (reply, after)) :
    Solvent walletId after ∧ before.balance walletId ≤ after.balance walletId := by
  obtain ⟨_, _, rfl⟩ | ⟨_, clock, rfl⟩ := World.commit_inversion served
  · exact ⟨good, le_refl _⟩
  · have credited : 0 ≤ netOver (ofWallet walletId)
        (LedgerFacade.recordReceive before.bank args).transactions := by
      rw [netOver_recordReceive good.customer args credits.fee]
      have fee : (0 : ℚ) ≤ (LedgerFacade.actualFee args.bankFee).btc.amount := by
        exact_mod_cast credits.fee
      have amount : (0 : ℚ) ≤
          args.amountToCreditReceiver.inCurrency args.recipientWalletDescriptor.currency := by
        exact_mod_cast credits.amount
      split <;> split <;> linarith
    refine ⟨solvent_commit good (add_nonneg good.balance credited) fun leg member isPending =>
      ?_, ?_⟩
    · obtain ⟨additional, same⟩ := recordReceive_tagged before.bank args leg member
      simp [Leg.isPendingPayment, same, TxMetadata.override, credits.settled] at isPending
    · rw [balance_commit]
      linarith

theorem settle_step {hash : PaymentHash} {fault : Option String} {reply : Result Unit}
    (good : Solvent walletId before)
    (served : before.settle run hash fault = some (reply, after)) :
    Solvent walletId after ∧ before.balance walletId ≤ after.balance walletId := by
  obtain ⟨_, _, rfl⟩ | ⟨rfl, _⟩ := World.settle_inversion served
  · exact ⟨good, le_refl _⟩
  · exact ⟨solvent_settle good hash, le_of_eq (Ledger.balance_settlePending _ hash).symm⟩

theorem flows_step (benign : Benign c) (good : Solvent walletId before) (part : c.part = .flows)
    (served : serve run before c a = some (reply, after)) : ∀ flow ∈ after.flows, flow.Nonneg := by
  cases c
  case updateLightningPaymentFlow flow =>
    obtain rfl | ⟨_, _, updated, rfl⟩ := World.updateLightningPaymentFlow_inversion served
    · exact good.books.flows
    · exact (World.updateFirst_all good.books.flows (fun _ _ => benign) updated).2
  case markLightningPaymentFlowNotPending index =>
    obtain ⟨_, rfl, _⟩ | ⟨_, _, updated, _, rfl⟩ :=
      World.markLightningPaymentFlowNotPending_inversion served
    · exact good.books.flows
    · refine (World.updateFirst_all good.books.flows (fun flow member => ?_) updated).2
      obtain ⟨btcPayment, usdPayment, btcFee, usdFee⟩ := good.books.flows flow member
      exact ⟨btcPayment, usdPayment, btcFee, usdFee⟩
  all_goals cases part

theorem invoices_step (good : Solvent walletId before) (part : c.part = .invoices)
    (served : serve run before c a = some (reply, after)) :
    ∀ paymentHash record cents, after.invoices paymentHash = some record →
      record.cents = some cents → 0 ≤ cents := by
  intro paymentHash record cents stored isCents
  cases c
  case markAsPaid site hash =>
    obtain ⟨_, rfl⟩ | ⟨unpaid, found, _, rfl⟩ := World.markAsPaid_inversion served
    · exact good.books.invoices paymentHash record cents stored isCents
    · by_cases same : paymentHash = hash
      · subst same
        simp only [Function.update_self, Option.some.injEq] at stored
        subst stored
        exact good.books.invoices paymentHash unpaid cents found isCents
      · simp only [Function.update_of_ne same] at stored
        exact good.books.invoices paymentHash record cents stored isCents
  case deleteByPaymentHash site hash =>
    obtain ⟨_, rfl⟩ | ⟨_, rfl⟩ := World.deleteByPaymentHash_inversion served
    · exact good.books.invoices paymentHash record cents stored isCents
    · by_cases same : paymentHash = hash
      · simp [same] at stored
      · simp only [Function.update_of_ne same] at stored
        exact good.books.invoices paymentHash record cents stored isCents
  all_goals cases part

theorem quiet_step (benign : Benign c) (good : Solvent walletId before) (part : c.part ≠ .ledger)
    (served : serve run before c a = some (reply, after)) :
    Solvent walletId after ∧ before.balance walletId ≤ after.balance walletId := by
  have frame := serve_frame served
  have ledger := frame.ledger part
  refine ⟨solvent_moved good frame.bank ledger ?_ ?_, ?_⟩
  · by_cases flows : c.part = .flows
    · exact flows_step benign good flows served
    · rw [frame.flows flows]
      exact good.books.flows
  · by_cases invoices : c.part = .invoices
    · exact invoices_step good invoices served
    · rw [frame.invoices invoices]
      exact good.books.invoices
  · unfold World.balance
    rw [ledger]

theorem benign_step (benign : Benign c) (good : Solvent walletId before)
    (served : serve run before c a = some (reply, after)) :
    Solvent walletId after ∧ before.balance walletId ≤ after.balance walletId := by
  by_cases part : c.part = .ledger
  · cases c
    case recordReceive args => exact receive_step benign good served
    case settlePendingLnSend hash => exact settle_step good served
    case settlePendingLnPayment hash => exact settle_step good served
    all_goals first | exact False.elim benign | cases part
  · exact quiet_step benign good part served

theorem benign_lock (benign : Benign c) (served : serve run before c a = some (reply, after))
    (held : before.locks (.wallet walletId) = some run) : after.locks (.wallet walletId) =
      some run := by
  by_cases part : c.part = .locks
  · cases c
    case acquire key =>
      obtain ⟨_, rfl⟩ | ⟨_, free, rfl⟩ := World.acquire_inversion served
      · exact held
      · have another : LockKey.wallet walletId ≠ key := by
          rintro rfl
          simp [held] at free
        simpa [Function.update_of_ne another] using held
    case release key => cases benign
    all_goals cases part
  · rw [(serve_frame served).locks part]
    exact held

theorem benign_kept {keep : World → Prop} (stable : (solvency walletId).Stable run keep)
    (benign : Benign c) (good : Solvent walletId before) (holds : keep before)
    (served : serve run before c a = some (reply, after)) :
    (solvency walletId).Guaranteed run before after ∧ keep after := by
  obtain ⟨kept, more⟩ := benign_step benign good served
  refine ⟨guaranteed served kept fun _ => more, stable before after
    ⟨serve_grows served, ?_⟩ kept holds⟩
  exact fun held => ⟨benign_lock benign served held, more⟩

theorem benign_spec {α : Type} {keep : World → Prop} {x : App α}
    (stable : (solvency walletId).Stable run keep) (only : OnlyRun Benign x) :
    Spec services dealerPricesNonneg (solvency walletId) run keep x (fun _ => keep)
      (fun _ => keep) :=
  Spec.ofOnly stable (fun _ benign _ _ _ _ good holds _ served =>
    benign_kept stable benign good holds served) only

end Steps

end Solvency

end Galoy
