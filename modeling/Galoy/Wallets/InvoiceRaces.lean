import Galoy.Ledger.Entries
import Galoy.Wallets.InvoiceRuns

set_option autoImplicit false

namespace Galoy

open Interleave App

def World.closedInvoice (w : World) (paymentHash : PaymentHash) : Prop :=
  ∀ record, w.invoices paymentHash = some record → record.paid = true

-- The holder of the lock may rely on nobody else committing a receive for the hash.
def oneReceive (paymentHash : PaymentHash) : Discipline World where
  inv w := w.ledger.receives paymentHash ≤ 1 ∧
    (w.ledger.receives paymentHash = 0 ∨ w.closedInvoice paymentHash)
  rely run before after :=
    (before.locks (.paymentHash paymentHash) = some run →
      after.locks (.paymentHash paymentHash) = some run ∧
        after.ledger.receives paymentHash = before.ledger.receives paymentHash) ∧
    (before.closedInvoice paymentHash → after.closedInvoice paymentHash)
  rely_refl _ _ := ⟨fun held => ⟨held, rfl⟩, fun closed => closed⟩
  rely_trans _ _ _ _ first second := by
    refine ⟨fun held => ?_, fun closed => second.2 (first.2 closed)⟩
    obtain ⟨still, same⟩ := first.1 held
    obtain ⟨later, again⟩ := second.1 still
    exact ⟨later, again.trans same⟩

-- Behind the lock, the invoice that is read again has not been paid in the meantime.
def rereadsUnpaid (paymentHash : PaymentHash) : Permit services := fun _ w c _ =>
  c = .findByPaymentHash .updatePendingInvoiceBehindLock paymentHash →
    (w.invoices paymentHash).all (!·.paid)

instance (paymentHash : PaymentHash) (run : RunId) (w : World) (c : Call) (a : services.Answer c) :
    Decidable (rereadsUnpaid paymentHash run w c a) :=
  inferInstanceAs (Decidable (_ → _))

namespace OneReceive

section Steps

variable {paymentHash : PaymentHash} {run : RunId}

theorem receives_commit_le (paymentHash : PaymentHash) (run : RunId) (ledger : Ledger) (clock : Nat)
    (entry : Entry) :
    (ledger.commit run clock entry).receives paymentHash ≤ ledger.receives paymentHash + 1 := by
  simp only [Ledger.receives, Ledger.commit, List.countP_append, List.countP_singleton]
  split <;> omega

theorem receives_commit_other (ledger : Ledger) (clock : Nat) (bank : BankWallets)
    (args : RecordReceiveArgs) (other : args.metadata.hash ≠ some paymentHash) :
    (ledger.commit run clock (LedgerFacade.recordReceive bank args)).receives paymentHash =
      ledger.receives paymentHash := by
  have none : ∀ leg ∈ (LedgerFacade.recordReceive bank args).transactions,
      leg.ofHash paymentHash = false := by
    intro leg member
    obtain ⟨additional, same⟩ := recordReceive_tagged bank args leg member
    simpa [Leg.ofHash, same, TxMetadata.override] using other
  simp only [Ledger.receives, Ledger.commit, List.countP_append, List.countP_singleton]
  rw [if_neg]
  · rfl
  · simp only [Journal.isReceiveFor, List.any_eq_true, not_exists, not_and]
    intro leg member
    simp [none leg member]

def Harmless (paymentHash : PaymentHash) : Call → Prop
  | .recordReceive args => args.metadata.hash ≠ some paymentHash
  | c => c.part = .nothing ∨ c.part = .invoices

theorem reads_harmless (c : Call) (reads : c.reads) : Harmless paymentHash c := by
  cases c <;> first | exact .inl reads | cases reads

theorem closedInvoice_kept {before after : World} {c : Call} {a : Answer c} {reply : Reply c}
    (served : serve run before c a = some (reply, after))
    (closed : before.closedInvoice paymentHash) :
    after.closedInvoice paymentHash := by
  by_cases part : c.part = .invoices
  · intro stored found
    cases c
    case markAsPaid site hash =>
      obtain ⟨_, rfl⟩ | ⟨record, _, _, rfl⟩ := World.markAsPaid_inversion served
      · exact closed stored found
      · by_cases same : paymentHash = hash
        · subst same
          simp only [Function.update_self, Option.some.injEq] at found
          simp [← found]
        · simp only [Function.update_of_ne same] at found
          exact closed stored found
    case deleteByPaymentHash site hash =>
      obtain ⟨_, rfl⟩ | ⟨_, rfl⟩ := World.deleteByPaymentHash_inversion served
      · exact closed stored found
      · by_cases same : paymentHash = hash
        · subst same
          simp at found
        · simp only [Function.update_of_ne same] at found
          exact closed stored found
    all_goals cases part
  · have same := (serve_frame served).invoices part
    simpa [World.closedInvoice, same] using closed

theorem guaranteed_of_kept {before after : World} {c : Call} {a : Answer c} {reply : Reply c}
    (good : (oneReceive paymentHash).inv before)
    (served : serve run before c a = some (reply, after))
    (receives : after.ledger.receives paymentHash = before.ledger.receives paymentHash) :
    (oneReceive paymentHash).Guaranteed run before after := by
  have closed : before.closedInvoice paymentHash → after.closedInvoice paymentHash :=
    closedInvoice_kept served
  refine ⟨⟨?_, ?_⟩, fun other different =>
    ⟨fun held => ⟨serve_lock served different held, receives⟩, closed⟩⟩
  · rw [receives]
    exact good.1
  · rw [receives]
    exact good.2.imp id closed

theorem harmless_kept {before after : World} {c : Call} {a : Answer c} {reply : Reply c}
    (harmless : Harmless paymentHash c) (served : serve run before c a = some (reply, after)) :
    after.locks = before.locks ∧
      after.ledger.receives paymentHash = before.ledger.receives paymentHash := by
  have frame := serve_frame served
  by_cases quiet : c.part = .nothing ∨ c.part = .invoices
  · have locks := frame.locks (by rcases quiet with h | h <;> simp [h])
    have ledger := frame.ledger (by rcases quiet with h | h <;> simp [h])
    exact ⟨locks, by rw [ledger]⟩
  · cases c
    case recordReceive args =>
      refine ⟨frame.locks (by simp [Call.part]), ?_⟩
      obtain ⟨_, _, rfl⟩ | ⟨_, now, rfl⟩ := World.commit_inversion served
      · rfl
      · exact receives_commit_other _ _ _ args harmless
    all_goals exact absurd harmless quiet

theorem harmless_guaranteed {before after : World} {c : Call} {a : Answer c} {reply : Reply c}
    (harmless : Harmless paymentHash c) (good : (oneReceive paymentHash).inv before)
    (served : serve run before c a = some (reply, after)) :
    (oneReceive paymentHash).Guaranteed run before after := by
  exact guaranteed_of_kept good served (harmless_kept harmless served).2

end Steps

section Runs

variable (paymentHash : PaymentHash) (run : RunId)

def Holds (w : World) : Prop := w.locks (.paymentHash paymentHash) = some run

def HoldsFresh (w : World) : Prop := Holds paymentHash run w ∧ w.ledger.receives paymentHash = 0

def HoldsClosed (w : World) : Prop := HoldsFresh paymentHash run w ∧ w.closedInvoice paymentHash

variable {paymentHash run}

theorem holds_stable : (oneReceive paymentHash).Stable run (Holds paymentHash run) :=
  fun _ _ between _ held => (between.1 held).1

theorem holdsFresh_stable : (oneReceive paymentHash).Stable run (HoldsFresh paymentHash run) := by
  rintro before after between _ ⟨held, fresh⟩
  obtain ⟨still, same⟩ := between.1 held
  exact ⟨still, same.trans fresh⟩

theorem holdsClosed_stable : (oneReceive paymentHash).Stable run (HoldsClosed paymentHash run) := by
  rintro before after between good ⟨fresh, closed⟩
  exact ⟨holdsFresh_stable before after between good fresh, between.2 closed⟩

theorem harmless_spec {α : Type} {keep : World → Prop} {x : App α}
    (stable : (oneReceive paymentHash).Stable run keep)
    (kept : ∀ before after : World, after.locks = before.locks →
      after.ledger.receives paymentHash = before.ledger.receives paymentHash →
      (before.closedInvoice paymentHash → after.closedInvoice paymentHash) →
      keep before → keep after)
    (only : OnlyRun (Harmless paymentHash) x) :
    Spec services (rereadsUnpaid paymentHash) (oneReceive paymentHash) run keep x
      (fun _ => keep) (fun _ => keep) := by
  refine Spec.ofOnly stable ?_ only
  intro c harmless before a reply after good holds _ served
  obtain ⟨locks, receives⟩ := harmless_kept harmless served
  exact ⟨harmless_guaranteed harmless good served,
    kept before after locks receives (closedInvoice_kept served) holds⟩

theorem harmless_true {α : Type} {x : App α} (only : OnlyRun (Harmless paymentHash) x) :
    Spec services (rereadsUnpaid paymentHash) (oneReceive paymentHash) run (fun _ => True) x
      (fun _ _ => True) (fun _ _ => True) :=
  harmless_spec (Discipline.stable_true _ run) (fun _ _ _ _ _ _ => trivial) only

theorem harmless_holds {α : Type} {x : App α} (only : OnlyRun (Harmless paymentHash) x) :
    Spec services (rereadsUnpaid paymentHash) (oneReceive paymentHash) run (Holds paymentHash run) x
      (fun _ => Holds paymentHash run) (fun _ => Holds paymentHash run) := by
  refine harmless_spec holds_stable ?_ only
  intro before after locks _ _ held
  rwa [Holds, locks]

theorem harmless_fresh {α : Type} {x : App α} (only : OnlyRun (Harmless paymentHash) x) :
    Spec services (rereadsUnpaid paymentHash) (oneReceive paymentHash) run
      (HoldsFresh paymentHash run) x
      (fun _ => HoldsFresh paymentHash run) (fun _ => Holds paymentHash run) := by
  refine Spec.weaken_err (harmless_spec holdsFresh_stable ?_ only) (fun _ _ _ h => h.1)
  intro before after locks receives _ held
  rwa [HoldsFresh, Holds, locks, receives]

theorem harmless_closed {α : Type} {x : App α} (only : OnlyRun (Harmless paymentHash) x) :
    Spec services (rereadsUnpaid paymentHash) (oneReceive paymentHash) run
      (HoldsClosed paymentHash run) x
      (fun _ => HoldsClosed paymentHash run) (fun _ => Holds paymentHash run) := by
  refine Spec.weaken_err (harmless_spec holdsClosed_stable ?_ only) (fun _ _ _ h => h.1.1)
  intro before after locks receives closed held
  refine ⟨?_, closed held.2⟩
  rw [HoldsFresh, Holds, locks, receives]
  exact held.1

theorem reread_spec :
    Spec services (rereadsUnpaid paymentHash) (oneReceive paymentHash) run (Holds paymentHash run)
      (fallible (ask (.findByPaymentHash .updatePendingInvoiceBehindLock paymentHash)))
      (fun _ => HoldsFresh paymentHash run) (fun _ => Holds paymentHash run) := by
  refine fallible_spec (ask_triple holds_stable ?_)
  intro before a reply after good held allowed served
  have harmless : Harmless paymentHash
      (.findByPaymentHash .updatePendingInvoiceBehindLock paymentHash) := Or.inl rfl
  refine ⟨harmless_guaranteed harmless good served, ?_⟩
  obtain rfl := Stores.read_unchanged served
  cases reply with
  | error error => exact held
  | ok invoice =>
    obtain ⟨record, stored, _⟩ := World.findByPaymentHash_ok (Stores.read_ok served)
    have unpaid := allowed rfl
    refine ⟨held, good.2.resolve_right fun closed => ?_⟩
    simp [stored, closed record stored] at unpaid

theorem markAsPaid_spec :
    Spec services (rereadsUnpaid paymentHash) (oneReceive paymentHash) run
      (HoldsFresh paymentHash run)
      (fallible (ask (.markAsPaid .updatePendingInvoiceBehindLock paymentHash)))
      (fun _ => HoldsClosed paymentHash run) (fun _ => Holds paymentHash run) := by
  refine fallible_spec (ask_triple holdsFresh_stable ?_)
  intro before a reply after good fresh _ served
  have harmless : Harmless paymentHash
      (.markAsPaid .updatePendingInvoiceBehindLock paymentHash) := Or.inr rfl
  refine ⟨harmless_guaranteed harmless good served, ?_⟩
  obtain ⟨⟨error, rfl⟩, rfl⟩ | ⟨record, _, rfl, rfl⟩ := World.markAsPaid_inversion served
  · exact fresh.1
  · refine ⟨fresh, fun stored found => ?_⟩
    simp only [Function.update_self, Option.some.injEq] at found
    simp [← found]

theorem recordReceive_spec (args : RecordReceiveArgs) :
    Spec services (rereadsUnpaid paymentHash) (oneReceive paymentHash) run
      (HoldsClosed paymentHash run) (fallible (ask (.recordReceive args)))
      (fun _ => Holds paymentHash run) (fun _ => Holds paymentHash run) := by
  refine fallible_spec (ask_triple holdsClosed_stable ?_)
  rintro before a reply after good ⟨⟨held, fresh⟩, closed⟩ _ served
  have locks := (serve_frame served).locks (by simp [Call.part])
  have still : Holds paymentHash run after := by rwa [Holds, locks]
  have stillClosed := closedInvoice_kept served closed
  have bound : after.ledger.receives paymentHash ≤ 1 := by
    obtain ⟨_, _, rfl⟩ | ⟨_, now, rfl⟩ := World.commit_inversion served
    · exact good.1
    · have grown := receives_commit_le paymentHash run before.ledger now
        (LedgerFacade.recordReceive before.bank args)
      rw [fresh] at grown
      exact grown
  refine ⟨⟨⟨bound, .inr stillClosed⟩, fun other different =>
    ⟨fun theirs => ?_, fun _ => stillClosed⟩⟩, ?_⟩
  · -- The lock is this run's, so nobody else holds it.
    rw [held] at theirs
    exact absurd (Option.some.inj theirs).symm different
  · cases reply <;> exact still

section Only

variable (walletInvoice : WalletInvoice)

theorem creditPendingInvoice_only (lookup : LnInvoiceLookup) (receivedBtc : BtcPaymentAmount)
    (other : walletInvoice.paymentHash ≠ paymentHash) :
    OnlyRun (Harmless paymentHash) (creditPendingInvoice walletInvoice lookup receivedBtc) := by
  refine OnlyRun.bind (walletInvoiceReceiver_only reads_harmless _ _) fun receiver => ?_
  refine OnlyRun.bind (settleHeldInvoice_only reads_harmless _ _) fun _ => ?_
  refine OnlyRun.bind (only_fallible (only_ask (Or.inr rfl))) fun _ => ?_
  refine OnlyRun.bind (only_fallible (only_ask (Or.inl rfl))) fun recipientWallet => ?_
  refine OnlyRun.bind (only_fallible (only_ask (Or.inl rfl))) fun recipientAccount => ?_
  have notThis : Harmless paymentHash (.recordReceive
      (lightningReceiveArgs walletInvoice lookup.description receiver recipientAccount.id)) := by
    intro same
    exact other (Option.some.inj same)
  refine OnlyRun.bind (only_fallible (only_ask notThis)) fun _ => ?_
  refine OnlyRun.bind (only_fallible (only_ask (Or.inl rfl))) fun recipientUser => ?_
  exact OnlyRun.bind (only_total (only_ask (Or.inl rfl))) fun _ => OnlyRun.pure _

theorem behindLock_only (lookup : LnInvoiceLookup) (receivedBtc : BtcPaymentAmount)
    (other : walletInvoice.paymentHash ≠ paymentHash) :
    OnlyRun (Harmless paymentHash)
      (updatePendingInvoiceBehindLock walletInvoice lookup receivedBtc) := by
  refine OnlyRun.bind (only_attempt (only_fallible (only_ask (Or.inl rfl)))) fun result => ?_
  cases result with
  | error error =>
    dsimp only
    split
    · exact OnlyRun.pure _
    · exact OnlyRun.throw _
  | ok invoice =>
    dsimp only
    split
    · exact OnlyRun.pure _
    · exact creditPendingInvoice_only walletInvoice lookup receivedBtc other

end Only

theorem creditPendingInvoice_own (walletInvoice : WalletInvoice) (lookup : LnInvoiceLookup)
    (receivedBtc : BtcPaymentAmount) :
    Spec services (rereadsUnpaid walletInvoice.paymentHash)
      (oneReceive walletInvoice.paymentHash) run
      (HoldsFresh walletInvoice.paymentHash run)
      (creditPendingInvoice walletInvoice lookup receivedBtc)
      (fun _ => Holds walletInvoice.paymentHash run)
      (fun _ => Holds walletInvoice.paymentHash run) := by
  refine Spec.bind (harmless_fresh (walletInvoiceReceiver_only reads_harmless _ _))
    fun receiver => ?_
  refine Spec.bind (harmless_fresh (settleHeldInvoice_only reads_harmless _ _)) fun _ => ?_
  refine Spec.bind markAsPaid_spec fun _ => ?_
  refine Spec.bind (harmless_closed (only_fallible (only_ask (Or.inl rfl))))
    fun recipientWallet => ?_
  refine Spec.bind (harmless_closed (only_fallible (only_ask (Or.inl rfl))))
    fun recipientAccount => ?_
  refine Spec.bind (recordReceive_spec _) fun _ => ?_
  refine Spec.bind (harmless_holds (only_fallible (only_ask (Or.inl rfl)))) fun recipientUser => ?_
  refine Spec.bind (harmless_holds (only_total (only_ask (Or.inl rfl)))) fun _ => ?_
  exact Spec.pure fun _ _ held => held

theorem behindLock_own (walletInvoice : WalletInvoice) (lookup : LnInvoiceLookup)
    (receivedBtc : BtcPaymentAmount) :
    Spec services (rereadsUnpaid walletInvoice.paymentHash)
      (oneReceive walletInvoice.paymentHash) run
      (Holds walletInvoice.paymentHash run)
      (updatePendingInvoiceBehindLock walletInvoice lookup receivedBtc)
      (fun _ => Holds walletInvoice.paymentHash run)
      (fun _ => Holds walletInvoice.paymentHash run) := by
  refine Spec.bind (attempt_spec reread_spec) fun result => ?_
  cases result with
  | error error =>
    dsimp only
    split
    · exact Spec.pure fun _ _ held => held
    · exact Spec.throw fun _ _ held => held
  | ok invoice =>
    dsimp only
    split
    · exact Spec.pure fun _ _ fresh => fresh.1
    · exact creditPendingInvoice_own walletInvoice lookup receivedBtc

theorem acquire_spec (key : LockKey) :
    Spec services (rereadsUnpaid paymentHash) (oneReceive paymentHash) run (fun _ => True)
      (fallible (ask (.acquire key))) (fun _ w => w.locks key = some run) (fun _ _ => True) := by
  refine fallible_spec (ask_triple (Discipline.stable_true _ run) ?_)
  intro before a reply after good _ _ served
  have ledger := (serve_frame served).ledger (by simp [Call.part])
  refine ⟨guaranteed_of_kept good served (by rw [ledger]), ?_⟩
  obtain ⟨⟨error, rfl⟩, rfl⟩ | ⟨rfl, _, rfl⟩ := World.acquire_inversion served
  · trivial
  · exact Function.update_self ..

theorem release_spec (key : LockKey) :
    Spec services (rereadsUnpaid paymentHash) (oneReceive paymentHash) run (fun _ => True)
      (fallible (ask (.release key))) (fun _ _ => True) (fun _ _ => True) := by
  refine fallible_spec (ask_triple (Discipline.stable_true _ run) ?_)
  intro before a reply after good _ _ served
  have ledger := (serve_frame served).ledger (by simp [Call.part])
  refine ⟨guaranteed_of_kept good served (by rw [ledger]), ?_⟩
  cases reply <;> trivial

theorem locked_spec (walletInvoice : WalletInvoice) (lookup : LnInvoiceLookup)
    (receivedBtc : BtcPaymentAmount) :
    Spec services (rereadsUnpaid paymentHash) (oneReceive paymentHash) run (fun _ => True)
      (withLock (.paymentHash walletInvoice.paymentHash)
        (updatePendingInvoiceBehindLock walletInvoice lookup receivedBtc))
      (fun _ _ => True) (fun _ _ => True) := by
  by_cases own : walletInvoice.paymentHash = paymentHash
  · subst own
    refine withLock_spec (acquire_spec _) (behindLock_own walletInvoice lookup receivedBtc) ?_ ?_
    · exact fun _ => Spec.strengthen_pre (release_spec _) (fun _ _ _ => trivial)
    · exact fun _ => Spec.strengthen_pre (release_spec _) (fun _ _ _ => trivial)
  · refine withLock_spec ?_ (harmless_true (behindLock_only walletInvoice lookup receivedBtc own))
      (fun _ => release_spec _) (fun _ => release_spec _)
    exact Spec.weaken_ok (acquire_spec _) (fun _ _ _ _ => trivial)

theorem invoiceRun_spec (invoiceRun : InvoiceRun) :
    Triple services (rereadsUnpaid paymentHash) (oneReceive paymentHash) run (fun _ => True)
      invoiceRun.prog (fun _ _ => True) := by
  have step : ∀ c : Call, c.part = .nothing ∨ c.part = .invoices → ∀ before a reply after,
      (oneReceive paymentHash).inv before → rereadsUnpaid paymentHash run before c a →
      serve run before c a = some (reply, after) →
      (oneReceive paymentHash).Guaranteed run before after := by
    intro c quiet before a reply after good _ served
    refine harmless_guaranteed ?_ good served
    cases c <;> first | exact quiet | rcases quiet with part | part <;> cases part
  have locked : ∀ walletInvoice lookup (receivedBtc : BtcPaymentAmount), True →
      0 < receivedBtc.amount → Spec services (rereadsUnpaid paymentHash)
        (oneReceive paymentHash) run (fun _ => True)
          (withLock (.paymentHash walletInvoice.paymentHash)
            (updatePendingInvoiceBehindLock walletInvoice lookup receivedBtc))
        (fun _ _ => True) (fun _ _ => True) :=
    fun walletInvoice lookup receivedBtc _ _ => locked_spec walletInvoice lookup receivedBtc
  exact invoiceRun_run step locked (fun _ _ _ _ _ => trivial) invoiceRun

end Runs

end OneReceive

theorem receive_committed_at_most_once (paymentHash : PaymentHash) (start : World)
    (fresh : start.ledger.receives paymentHash = 0) (runs : RunId → InvoiceRun)
    (after : Config World Call Reply Unit)
    (reach : Reach services (rereadsUnpaid paymentHash) ⟨start, fun run => (runs run).prog⟩ after) :
    after.world.ledger.receives paymentHash ≤ 1 := by
  have good : (oneReceive paymentHash).inv start := by
    refine ⟨?_, .inl fresh⟩
    rw [fresh]
    exact Nat.zero_le 1
  have kept := reach_inv good (fun run => OneReceive.invoiceRun_spec (runs run) start good trivial)
    reach
  exact kept.1

section Example

def heldInvoiceStart : Config World Call Reply Unit :=
  ⟨heldInvoiceWorld, fun _ => (InvoiceRun.updatePendingInvoiceByPaymentHash "hash").prog⟩

def settlesForOthers (run : RunId) : (c : Call) → Answer c
  | .settleInvoice _ _ =>
    if run = 1 then .error { name := .UnknownLightningServiceError } else .ok ()
  | c => heldInvoiceOutside.answers c

theorem receive_committed_once_for_three_triggers :
    heldInvoiceWorld.ledger.receives "hash" = 0 ∧
      ∃ after, Reach services (rereadsUnpaid "hash") heldInvoiceStart after ∧
        (∀ run < 3, after.pool run = .pure ()) ∧
        after.world.ledger.receives "hash" = 1 ∧ after.world.ledger.receives "hash" ≤ 1 := by
  have played : (play services (rereadsUnpaid "hash") settlesForOthers
      (List.replicate 3 0 ++ List.replicate 8 1 ++ List.replicate 12 0 ++ [1, 2, 2, 2])
      heldInvoiceStart).map (fun after => ((List.range 3).map fun run => (after.pool run).result?,
        after.world.ledger.receives "hash")) = some ([some (), some (), some ()], 1) := by
    decide +kernel
  obtain ⟨after, run, shown⟩ := Option.map_eq_some_iff.mp played
  obtain ⟨results, once⟩ := Prod.mk.inj shown
  have ended : ∀ run < 3, (after.pool run).result? = some () := by
    intro run below
    have listed := List.mem_map_of_mem (f := fun run => (after.pool run).result?)
      (List.mem_range.mpr below)
    rw [results] at listed
    simpa using listed
  have reach := play_reach _ _ _ _ _ _ run
  exact ⟨rfl, after, reach, fun run below => Prog.result?_eq_some.mp (ended run below), once,
    receive_committed_at_most_once "hash" heldInvoiceWorld rfl _ after reach⟩

theorem two_triggers_receive_twice :
    heldInvoiceWorld.ledger.receives "hash" = 0 ∧
      ∃ after, Reach services (anyStep services) heldInvoiceStart after ∧
        after.world.ledger.receives "hash" = 2 := by
  have played : (play services (anyStep services) (fun _ => heldInvoiceOutside.answers)
      (List.replicate 3 0 ++ List.replicate 3 1 ++ List.replicate 12 0 ++ List.replicate 12 1)
      heldInvoiceStart).map (·.world.ledger.receives "hash") = some 2 := by
    decide +kernel
  obtain ⟨after, run, twice⟩ := Option.map_eq_some_iff.mp played
  exact ⟨rfl, after, play_reach _ _ _ _ _ _ run, twice⟩

end Example

end Galoy
