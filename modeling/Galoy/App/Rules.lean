import Galoy.App.Effects

set_option autoImplicit false

namespace Galoy

def Call.reads (c : Call) : Prop := c.part = .nothing

namespace App

open Interleave

inductive Settles (paymentHash : PaymentHash) : Prog Call Reply (Result Unit) → Prop
  | lnSend : Settles paymentHash (ask (.settlePendingLnSend paymentHash))
  | lnPayment : Settles paymentHash (ask (.settlePendingLnPayment paymentHash))

inductive Voids (id : LedgerJournalId) : Prog Call Reply (Result Unit) → Prop
  | lnSend : Voids id (ask (.recordLnSendRevert id))
  | lnPayment : Voids id (ask (.revertLightningPayment id))

section Rules

variable {permit : Permit services} {D : Discipline World} {run : RunId} {α : Type}
  {pre : World → Prop} {ok : α → World → Prop} {err : AppError → World → Prop}

theorem fallible_spec {p : Prog Call Reply (Result α)}
    (h : Triple services permit D run pre p (outcome ok err)) :
    Spec services permit D run pre (fallible p) ok err := h

theorem total_spec {p : Prog Call Reply α} (h : Triple services permit D run pre p ok) :
    Spec services permit D run pre (total p) ok err := Spec.lift h

theorem attempt_spec {x : App α} {failed : AppError → World → Prop}
    (h : Spec services permit D run pre x ok failed) :
    Spec services permit D run pre (attempt x) (outcome ok failed) err := Spec.lift h

theorem attempt_keeps {x : App α} {keep : World → Prop}
    (h : Spec services permit D run keep x (fun _ => keep) (fun _ => keep)) :
    Spec services permit D run keep (attempt x) (fun _ => keep) err := by
  refine Spec.lift (Triple.conseq h (fun _ _ holds => holds) fun result w _ holds => ?_)
  cases result <;> exact holds

theorem ofResult_spec {result : Result α} (h : ∀ w, D.inv w → pre w → outcome ok err result w) :
    Spec services permit D run pre (ofResult result) ok err := h

theorem ofResult_bind_spec {β : Type} {result : Result β} {f : β → App α}
    (passed : ∀ value, result = .ok value → Spec services permit D run pre (f value) ok err)
    (failed : ∀ error w, result = .error error → D.inv w → pre w → err error w) :
    Spec services permit D run pre (ofResult result >>= f) ok err := by
  cases result with
  | ok value => exact passed value rfl
  | error error => exact fun w good holds => failed error w rfl good holds

theorem ask_triple {c : Call} {post : Reply c → World → Prop} (stable : D.Stable run pre)
    (h : ∀ before a reply after, D.inv before → pre before → permit run before c a →
      serve run before c a = some (reply, after) → D.Guaranteed run before after ∧
      post reply after) :
    Triple services permit D run pre (ask c) post := Triple.request stable h

theorem withLock_spec {key : LockKey} {body : App α} {held : World → Prop}
    {bodyOk : α → World → Prop} {bodyErr : AppError → World → Prop}
    (acquired : Spec services permit D run pre (fallible (ask (.acquire key))) (fun _ => held) err)
    (inside : Spec services permit D run held body bodyOk bodyErr)
    (releasedOk : ∀ value, Spec services permit D run (bodyOk value)
      (fallible (ask (.release key))) (fun _ => ok value) err)
    (releasedErr : ∀ error, Spec services permit D run (bodyErr error)
      (fallible (ask (.release key))) (fun _ => err error) err) :
    Spec services permit D run pre (withLock key body) ok err := by
  refine Spec.bind acquired fun _ => Spec.bind (attempt_spec inside) fun result => ?_
  cases result with
  | ok value => exact Spec.bind (releasedOk value) fun _ => ofResult_spec fun _ _ holds => holds
  | error error => exact Spec.bind (releasedErr error) fun _ => ofResult_spec fun _ _ holds => holds

theorem reads_spec {keep : World → Prop} {x : App α} (stable : D.Stable run keep)
    (guaranteed : ∀ before after : World, D.inv before → Frame .nothing before after →
      D.Guaranteed run before after)
    (kept : ∀ before after : World, Frame .nothing before after → keep before → keep after)
    (only : OnlyRun (fun c => c.part = .nothing) x) :
    Spec services permit D run keep x (fun _ => keep) (fun _ => keep) := by
  refine Spec.ofOnly stable ?_ only
  intro c quiet before a reply after good holds _ served
  have frame := serve_frame served
  rw [quiet] at frame
  exact ⟨guaranteed before after good frame, kept before after frame holds⟩

end Rules

section Solo

variable {run : RunId} {answers : (c : Call) → Answer c} {α : Type} {pre : World → Prop}
  {ok : α → World → Prop} {err : AppError → World → Prop}

abbrev SoloSpec (run : RunId) (answers : (c : Call) → Answer c) (pre : World → Prop) (x : App α)
    (ok : α → World → Prop) (err : AppError → World → Prop) : Prop :=
  Spec services (answering services answers) (.solo World run) run pre x ok err

theorem solo_ask {c : Call} {post : Reply c → World → Prop}
    (h : ∀ before reply after, pre before → serve run before c (answers c) = some (reply, after) →
      post reply after) :
    Triple services (answering services answers) (.solo World run) run pre (ask c) post :=
  Triple.solo_request h

theorem solo_reads {keep : World → Prop} {x : App α}
    (kept : ∀ before after : World, Frame .nothing before after → keep before → keep after)
    (only : OnlyRun (fun c => c.part = .nothing) x) :
    SoloSpec run answers keep x (fun _ => keep) (fun _ => keep) :=
  reads_spec (solo_stable keep) (fun before after _ _ => solo_guaranteed before after) kept only

theorem solo_reads_or {keep failed : World → Prop} {x : App α}
    (kept : ∀ before after : World, Frame .nothing before after → keep before → keep after)
    (early : ∀ w, keep w → failed w) (only : OnlyRun (fun c => c.part = .nothing) x) :
    SoloSpec run answers keep x (fun _ => keep) (fun _ => failed) :=
  Spec.weaken_err (solo_reads kept only) (fun _ w _ h => early w h)

theorem solo_read {keep : World → Prop} {c : Call}
    (kept : ∀ before after : World, Frame .nothing before after → keep before → keep after)
    (reads : c.part = .nothing) :
    Triple services (answering services answers) (.solo World run) run keep (ask c)
      (fun _ => keep) := by
  refine solo_ask fun before reply after holds served => ?_
  have frame := serve_frame served
  rw [reads] at frame
  exact kept before after frame holds

theorem solo_withLock {key : LockKey} {body : App α} {failed : World → Prop}
    (preLocks : ∀ w locks, pre w → pre { w with locks })
    (okLocks : ∀ value w locks, ok value w → ok value { w with locks })
    (failedLocks : ∀ w locks, failed w → failed { w with locks })
    (refused : ∀ w, pre w → failed w) (unreleased : ∀ value w, ok value w → failed w)
    (inside : SoloSpec run answers pre body ok (fun _ => failed)) :
    SoloSpec run answers pre (withLock key body) ok (fun _ => failed) := by
  have released : ∀ holds done : World → Prop, (∀ w locks, holds w → done { w with locks }) →
      (∀ w, done w → failed w) →
      SoloSpec run answers holds (fallible (ask (.release key))) (fun _ => done)
        (fun _ => failed) := by
    intro holds done moved weaker
    refine fallible_spec (solo_ask fun before reply after now served => ?_)
    obtain rfl := World.release_inversion served
    cases reply with
    | ok _ => exact moved before _ now
    | error error => exact weaker _ (moved before _ now)
  refine withLock_spec (fallible_spec (solo_ask ?_)) inside ?_ ?_
  · intro before reply after now served
    obtain ⟨⟨error, rfl⟩, rfl⟩ | ⟨rfl, _, rfl⟩ := World.acquire_inversion served
    · exact refused _ now
    · exact preLocks _ _ now
  · exact fun value => released (ok value) (ok value) (okLocks value) (unreleased value)
  · exact fun error => released failed failed failedLocks fun _ h => h

end Solo

section Only

variable {allowed : Call → Prop} {α : Type}

theorem only_ask {c : Call} (h : allowed c) : (ask c).Only allowed := Prog.only_request h

theorem only_fallible {p : Prog Call Reply (Result α)} (h : p.Only allowed) :
    OnlyRun allowed (fallible p) := h

theorem only_total {p : Prog Call Reply α} (h : p.Only allowed) : OnlyRun allowed (total p) :=
  Prog.Only.bind h fun _ => trivial

theorem only_attempt {x : App α} (h : OnlyRun allowed x) : OnlyRun allowed (attempt x) :=
  Prog.Only.bind h fun _ => trivial

theorem only_ofResult (result : Result α) : OnlyRun allowed (ofResult result) := trivial

theorem only_ofResult_bind {β : Type} {result : Result β} {f : β → App α}
    (passed : ∀ value, result = .ok value → OnlyRun allowed (f value)) :
    OnlyRun allowed (ofResult result >>= f) := by
  cases result with
  | ok value => exact passed value rfl
  | error error => trivial

theorem ask_reads (reads : ∀ c : Call, c.reads → allowed c) {c : Call} (quiet : c.part = .nothing) :
    (ask c).Only allowed :=
  only_ask (reads c quiet)

theorem usdFromBtcMidPriceFn_only (reads : ∀ c : Call, c.reads → allowed c) (site : Site)
    (amount : BtcPaymentAmount) : OnlyRun allowed (usdFromBtcMidPriceFn site amount) :=
  OnlyRun.bind (only_fallible (ask_reads reads rfl)) fun _ => OnlyRun.pure _

end Only

end App

end Galoy
