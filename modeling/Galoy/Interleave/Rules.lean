import Galoy.Interleave.RelyGuarantee

set_option autoImplicit false

namespace Interleave

variable {World Call : Type} {Reply : Call → Type} {α β ε : Type}

namespace Prog

def Only (allowed : Call → Prop) : Prog Call Reply α → Prop
  | .pure _ => True
  | .call c next => allowed c ∧ ∀ reply, (next reply).Only allowed

variable {allowed : Call → Prop}

theorem only_pure (value : α) : (Prog.pure value : Prog Call Reply α).Only allowed := trivial

theorem only_request {c : Call} (h : allowed c) :
    (request c : Prog Call Reply (Reply c)).Only allowed :=
  ⟨h, fun _ => trivial⟩

theorem Only.bind {p : Prog Call Reply α} {f : α → Prog Call Reply β} (first : p.Only allowed)
    (rest : ∀ value, (f value).Only allowed) : (p >>= f).Only allowed := by
  induction p with
  | pure value => exact rest value
  | call c next ih => exact ⟨first.1, fun reply => ih reply (first.2 reply)⟩

end Prog

section Failing

theorem split_bind {γ : Type} (x : ExceptT ε (Prog Call Reply) α)
    (f : α → ExceptT ε (Prog Call Reply) β) (g : β → ExceptT ε (Prog Call Reply) γ) :
    (x >>= f) >>= g = x >>= fun value => f value >>= g := by
  refine (Prog.bind_assoc x.run _ _).trans ?_
  refine congrArg (Bind.bind x.run) (funext fun result => ?_)
  cases result with
  | error error => rfl
  | ok value => rfl

variable {allowed : Call → Prop}

def OnlyRun (allowed : Call → Prop) (x : ExceptT ε (Prog Call Reply) α) : Prop :=
  Prog.Only allowed x.run

theorem OnlyRun.pure (value : α) :
    OnlyRun allowed (Pure.pure value : ExceptT ε (Prog Call Reply) α) := trivial

theorem OnlyRun.throw (error : ε) :
    OnlyRun allowed (throw error : ExceptT ε (Prog Call Reply) α) := trivial

theorem OnlyRun.bind {x : ExceptT ε (Prog Call Reply) α} {f : α → ExceptT ε (Prog Call Reply) β}
    (first : OnlyRun allowed x) (rest : ∀ value, OnlyRun allowed (f value)) :
    OnlyRun allowed (x >>= f) := by
  refine Prog.Only.bind first fun result => ?_
  cases result with
  | error error => trivial
  | ok value => exact rest value

end Failing

section Spec

variable (S : Service World Call Reply) (permit : Permit S) (D : Discipline World) (run : RunId)

def outcome (ok : α → World → Prop) (err : ε → World → Prop) : Except ε α → World → Prop
  | .ok value, w => ok value w
  | .error error, w => err error w

@[simp] theorem outcome_ok (ok : α → World → Prop) (err : ε → World → Prop)
    (value : α) (w : World) :
    outcome ok err (.ok value) w = ok value w := rfl

@[simp] theorem outcome_error (ok : α → World → Prop) (err : ε → World → Prop)
    (error : ε) (w : World) :
    outcome ok err (.error error) w = err error w := rfl

def Spec (pre : World → Prop) (x : ExceptT ε (Prog Call Reply) α) (ok : α → World → Prop)
    (err : ε → World → Prop) : Prop :=
  Triple S permit D run pre x.run (outcome ok err)

variable {S permit D run}

theorem Triple.ofOnly {allowed : Call → Prop} {keep : World → Prop} {p : Prog Call Reply α}
    (stable : D.Stable run keep)
    (kept : ∀ c, allowed c → ∀ before a reply after, D.inv before → keep before →
      permit run before c a → S.serve run before c a = some (reply, after) →
      D.Guaranteed run before after ∧ keep after)
    (only : p.Only allowed) : Triple S permit D run keep p (fun _ => keep) := by
  induction p with
  | pure value => exact fun w _ holds => holds
  | call c next ih =>
    intro w _ holds before between goodBefore a reply after permitted served
    have now := stable w before between goodBefore holds
    obtain ⟨guaranteed, later⟩ := kept c only.1 before a reply after goodBefore now permitted served
    exact ⟨guaranteed, ih reply (only.2 reply) after guaranteed.1 later⟩

variable {pre : World → Prop} {ok : α → World → Prop} {err : ε → World → Prop}

theorem Spec.pure {value : α} (h : ∀ w, D.inv w → pre w → ok value w) :
    Spec S permit D run pre (Pure.pure value) ok err := h

theorem Spec.throw {error : ε} (h : ∀ w, D.inv w → pre w → err error w) :
    Spec S permit D run pre (throw error : ExceptT ε (Prog Call Reply) α) ok err := h

theorem Spec.bind {x : ExceptT ε (Prog Call Reply) α} {f : α → ExceptT ε (Prog Call Reply) β}
    {done : β → World → Prop} (first : Spec S permit D run pre x ok err)
    (rest : ∀ value, Spec S permit D run (ok value) (f value) done err) :
    Spec S permit D run pre (x >>= f) done err := by
  refine Triple.bind first fun result => ?_
  cases result with
  | error error => exact fun w _ holds => holds
  | ok value => exact rest value

theorem Spec.seq {x : ExceptT ε (Prog Call Reply) α} {f : α → ExceptT ε (Prog Call Reply) β}
    {done : β → World → Prop} (mid : α → World → Prop) (first : Spec S permit D run pre x mid err)
    (rest : ∀ value, Spec S permit D run (mid value) (f value) done err) :
    Spec S permit D run pre (x >>= f) done err :=
  Spec.bind first rest

theorem Spec.unreachable {x : ExceptT ε (Prog Call Reply) α} :
    Spec S permit D run (fun _ => False) x ok err :=
  fun _ _ impossible => impossible.elim

theorem Spec.pre_fact {fact : Prop} {x : ExceptT ε (Prog Call Reply) α}
    (h : fact → Spec S permit D run pre x ok err) :
    Spec S permit D run (fun w => pre w ∧ fact) x ok err := by
  rintro w good ⟨holds, known⟩
  exact h known w good holds

theorem Spec.from_state {x : ExceptT ε (Prog Call Reply) α}
    (h : ∀ w, pre w → Spec S permit D run (fun now => now = w) x ok err) :
    Spec S permit D run pre x ok err :=
  fun w good holds => h w holds w good rfl

theorem Spec.of_fact {fact : Prop} {x : ExceptT ε (Prog Call Reply) α}
    (h : fact → Spec S permit D run (fun _ => True) x ok err) :
    Spec S permit D run (fun _ => fact) x ok err :=
  fun w good known => h known w good trivial

theorem Spec.conseq {x : ExceptT ε (Prog Call Reply) α} {stronger : World → Prop}
    {done : α → World → Prop} {failed : ε → World → Prop}
    (h : Spec S permit D run pre x ok err) (enough : ∀ w, D.inv w → stronger w → pre w)
    (okDone : ∀ value w, D.inv w → ok value w → done value w)
    (errFailed : ∀ error w, D.inv w → err error w → failed error w) :
    Spec S permit D run stronger x done failed := by
  refine Triple.conseq h enough fun result w good holds => ?_
  cases result with
  | error error => exact errFailed error w good holds
  | ok value => exact okDone value w good holds

section Consequence

variable {x : ExceptT ε (Prog Call Reply) α} (h : Spec S permit D run pre x ok err)

include h

theorem Spec.strengthen_pre {stronger : World → Prop} (enough : ∀ w, D.inv w → stronger w → pre w) :
    Spec S permit D run stronger x ok err :=
  Spec.conseq h enough (fun _ _ _ holds => holds) (fun _ _ _ holds => holds)

theorem Spec.weaken_ok {done : α → World → Prop}
    (implies : ∀ value w, D.inv w → ok value w → done value w) :
    Spec S permit D run pre x done err :=
  Spec.conseq h (fun _ _ holds => holds) implies (fun _ _ _ holds => holds)

theorem Spec.weaken_err {failed : ε → World → Prop}
    (implies : ∀ error w, D.inv w → err error w → failed error w) :
    Spec S permit D run pre x ok failed :=
  Spec.conseq h (fun _ _ holds => holds) (fun _ _ _ holds => holds) implies

end Consequence

theorem Spec.frame {keep : World → Prop} (stable : D.Stable run keep)
    (kept : ∀ c before a reply after, keep before →
      S.serve run before c a = some (reply, after) → keep after)
    {x : ExceptT ε (Prog Call Reply) α} (h : Spec S permit D run pre x ok err) :
    Spec S permit D run (fun w => pre w ∧ keep w) x (fun value w => ok value w ∧ keep w)
      (fun error w => err error w ∧ keep w) := by
  refine Triple.conseq (Triple.frame stable kept h) (fun _ _ h => h) fun result w _ holds => ?_
  cases result <;> exact holds

theorem Spec.ofTriple {p : Prog Call Reply (Except ε α)}
    (h : Triple S permit D run pre p (outcome ok err)) :
    Spec S permit D run pre (ExceptT.mk p) ok err := h

theorem Spec.lift {p : Prog Call Reply α} (h : Triple S permit D run pre p ok) :
    Spec S permit D run pre (ExceptT.lift p : ExceptT ε (Prog Call Reply) α) ok err :=
  Triple.bind h fun _ => fun _ _ holds => holds

theorem Spec.ofOnly {allowed : Call → Prop} {keep : World → Prop}
    {x : ExceptT ε (Prog Call Reply) α} (stable : D.Stable run keep)
    (kept : ∀ c, allowed c → ∀ before a reply after, D.inv before → keep before →
      permit run before c a → S.serve run before c a = some (reply, after) →
      D.Guaranteed run before after ∧ keep after)
    (only : OnlyRun allowed x) :
    Spec S permit D run keep x (fun _ => keep) (fun _ => keep) := by
  refine Triple.conseq (Triple.ofOnly stable kept only) (fun _ _ holds => holds) ?_
  intro result w _ holds
  cases result <;> exact holds

end Spec

end Interleave
