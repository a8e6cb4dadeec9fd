import Galoy.Payments.Requests

set_option autoImplicit false

namespace Galoy

open Interleave App

structure Lasting (D : Discipline World) (run : RunId) (item : LedgerTransaction → World → Prop) :
    Prop where
  grows : ∀ before after, D.rely run before after → before.ledger.Grows after.ledger
  kept : ∀ tx (before after : World), before.ledger.Grows after.ledger →
    item tx before → item tx after

section Runs

variable {permit : Permit services} {D : Discipline World} {run : RunId}
  {item : LedgerTransaction → World → Prop} (lasting : Lasting D run item)
  (step : ∀ c : Call, c.part = .nothing → ∀ before a reply after, D.inv before →
    permit run before c a → serve run before c a = some (reply, after) →
    D.Guaranteed run before after)

include lasting

theorem Lasting.stable (tx : LedgerTransaction) : D.Stable run (item tx) :=
  fun before after between _ holds => lasting.kept tx before after
    (lasting.grows before after between) holds

theorem Lasting.all_stable (txs : List LedgerTransaction) :
    D.Stable run (fun w => ∀ tx ∈ txs, item tx w) :=
  fun before after between good holds tx member =>
    lasting.stable tx before after between good (holds tx member)

theorem Lasting.served {txs : List LedgerTransaction} (c : Call) (before : World) (a : Answer c)
    (reply : Reply c) (after : World) (holds : ∀ tx ∈ txs, item tx before)
    (served : serve run before c a = some (reply, after)) : ∀ tx ∈ txs, item tx after :=
  fun tx member => lasting.kept tx before after (serve_grows served) (holds tx member)

include step

theorem quiet_items {α : Type} {x : App α} {tx : LedgerTransaction}
    (only : OnlyRun (fun c => c.part = .nothing) x) :
    Spec services permit D run (item tx) x (fun _ => item tx) (fun _ _ => True) := by
  refine Spec.weaken_err (Spec.ofOnly (lasting.stable tx)
    (fun c quiet before a reply after good holds permitted served =>
    ⟨step c quiet before a reply after good permitted served,
      lasting.kept tx before after (serve_grows served) holds⟩) only) (fun _ _ _ _ => trivial)

variable {walletId : WalletId}
  (locked : ∀ tx paymentHash lookup, tx.paymentHash = some paymentHash →
    Spec services permit D run (item tx)
      (withLock (.paymentHash paymentHash)
        (updatePendingPaymentBehindLock walletId tx paymentHash lookup))
      (fun _ _ => True) (fun _ _ => True))

include locked

theorem updatePendingPayment_run (tx : LedgerTransaction) :
    Spec services permit D run (item tx) (updatePendingPayment walletId tx) (fun _ _ => True)
      (fun _ _ => True) := by
  refine Spec.bind (quiet_items lasting step (only_fallible (only_ask rfl))) fun _ => ?_
  cases hash : tx.paymentHash with
  | none => exact Spec.throw fun _ _ _ => trivial
  | some paymentHash =>
    cases tx.pubkey with
    | none => exact Spec.throw fun _ _ _ => trivial
    | some pubkey =>
      refine Spec.bind (quiet_items lasting step (only_fallible (only_ask rfl))) fun lookup => ?_
      split
      · exact Spec.pure fun _ _ _ => trivial
      · exact locked tx paymentHash lookup hash

theorem updateEachPendingPayment_run (txs : List LedgerTransaction) :
    Spec services permit D run (fun w => ∀ tx ∈ txs, item tx w)
      (updateEachPendingPayment walletId txs) (fun _ _ => True) (fun _ _ => True) := by
  induction txs with
  | nil => exact Spec.pure fun _ _ _ => trivial
  | cons tx txs ih =>
    have first : Spec services permit D run (fun w => ∀ other ∈ tx :: txs, item other w)
        (attempt (updatePendingPayment walletId tx)) (fun _ w => ∀ other ∈ txs, item other w)
        (fun _ _ => True) := by
      have framed := Spec.frame (lasting.all_stable txs) lasting.served
        (updatePendingPayment_run lasting step locked tx)
      refine Spec.conseq (attempt_spec framed) (fun w _ holds => ?_) (fun result w _ holds => ?_)
        (fun _ _ _ h => h)
      · exact ⟨holds tx (by simp), fun other member => holds other (List.mem_cons_of_mem _ member)⟩
      · cases result <;> exact holds.2
    refine Spec.bind first fun result => ?_
    cases result with
    | error error =>
      dsimp only
      split
      · exact Spec.throw fun _ _ _ => trivial
      · exact ih
    | ok _ => exact ih

theorem updatePendingPaymentsByWalletId_run
    (listed : ∀ w, D.inv w → ∀ tx ∈ w.ledger.listPendingPayments walletId, item tx w) :
    Spec services permit D run (fun _ => True) (updatePendingPaymentsByWalletId walletId)
      (fun _ _ => True) (fun _ _ => True) := by
  have reads {α : Type} {x : App α} (only : OnlyRun (fun c => c.part = .nothing) x) :
      Spec services permit D run (fun _ => True) x (fun _ _ => True) (fun _ _ => True) :=
    Spec.ofOnly (D.stable_true run) (fun c quiet before a reply after good _ permitted served =>
      ⟨step c quiet before a reply after good permitted served, trivial⟩) only
  refine Spec.bind (reads (only_fallible (only_ask rfl))) fun count => ?_
  split
  · exact Spec.pure fun _ _ _ => trivial
  · refine Spec.seq (fun txs w => ∀ tx ∈ txs, item tx w)
      (fallible_spec (ask_triple (D.stable_true run) ?_)) fun txs =>
        updateEachPendingPayment_run lasting step locked txs
    intro before a reply after good _ permitted served
    refine ⟨step _ rfl before a reply after good permitted served, ?_⟩
    cases reply with
    | error error => trivial
    | ok txs =>
      obtain rfl := Stores.read_unchanged served
      obtain rfl := Except.ok.inj (Stores.read_ok served)
      exact listed _ good

end Runs

end Galoy
