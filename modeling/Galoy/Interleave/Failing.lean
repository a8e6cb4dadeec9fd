import Galoy.Interleave.Rules

set_option autoImplicit false

namespace Interleave.Failing

section Constructs

variable {Call : Type} {Reply : Call → Type} {ε α β : Type}

def fallible (p : Prog Call Reply (Except ε α)) : ExceptT ε (Prog Call Reply) α := ExceptT.mk p

def total (p : Prog Call Reply α) : ExceptT ε (Prog Call Reply) α := ExceptT.lift p

def attempt (x : ExceptT ε (Prog Call Reply) α) : ExceptT ε (Prog Call Reply) (Except ε α) :=
  ExceptT.lift x.run

def ofResult (result : Except ε α) : ExceptT ε (Prog Call Reply) α := ExceptT.mk (pure result)

-- An error of `leave` replaces the result of the body.
def bracket (enter leave : ExceptT ε (Prog Call Reply) Unit)
    (body : ExceptT ε (Prog Call Reply) α) : ExceptT ε (Prog Call Reply) α := do
  enter
  let result ← attempt body
  leave
  ofResult result

def each (items : List β) (body : β → ExceptT ε (Prog Call Reply) Unit) :
    ExceptT ε (Prog Call Reply) Unit :=
  match items with
  | [] => pure ()
  | item :: rest => do
    body item
    each rest body

end Constructs

section Only

variable {Call : Type} {Reply : Call → Type} {ε α β : Type} {allowed : Call → Prop}

theorem fallible_only {p : Prog Call Reply (Except ε α)} (only : p.Only allowed) :
    OnlyRun allowed (fallible p) := only

theorem total_only {p : Prog Call Reply α} (only : p.Only allowed) :
    OnlyRun allowed (total p : ExceptT ε (Prog Call Reply) α) :=
  Prog.Only.bind only fun _ => trivial

theorem attempt_only {x : ExceptT ε (Prog Call Reply) α} (only : OnlyRun allowed x) :
    OnlyRun allowed (attempt x) := total_only only

theorem ofResult_bind_only {result : Except ε α} {f : α → ExceptT ε (Prog Call Reply) β}
    (rest : ∀ value, result = .ok value → OnlyRun allowed (f value)) :
    OnlyRun allowed (ofResult result >>= f) := by
  cases result with
  | error error => exact OnlyRun.throw error
  | ok value => exact rest value rfl

theorem bracket_only {enter leave : ExceptT ε (Prog Call Reply) Unit}
    {body : ExceptT ε (Prog Call Reply) α} (entered : OnlyRun allowed enter)
    (left : OnlyRun allowed leave) (inside : OnlyRun allowed body) :
    OnlyRun allowed (bracket enter leave body) := by
  refine OnlyRun.bind entered fun _ => OnlyRun.bind (attempt_only inside) fun result => ?_
  exact OnlyRun.bind left fun _ => Prog.only_pure result

theorem each_only {items : List β} {body : β → ExceptT ε (Prog Call Reply) Unit}
    (only : ∀ item ∈ items, OnlyRun allowed (body item)) : OnlyRun allowed (each items body) := by
  induction items with
  | nil => exact OnlyRun.pure ()
  | cons item rest ih =>
    exact OnlyRun.bind (only item (by simp)) fun _ => ih fun other member =>
      only other (by simp [member])

end Only

section Rules

variable {World Call : Type} {Reply : Call → Type} {ε α β : Type} {S : Service World Call Reply}
  {permit : Permit S} {D : Discipline World} {run : RunId} {pre : World → Prop}
  {ok : α → World → Prop} {err : ε → World → Prop}

theorem fallible_spec {p : Prog Call Reply (Except ε α)}
    (h : Triple S permit D run pre p (outcome ok err)) :
    Spec S permit D run pre (fallible p) ok err := Spec.ofTriple h

theorem total_spec {p : Prog Call Reply α} (h : Triple S permit D run pre p ok) :
    Spec S permit D run pre (total p) ok err := Spec.lift h

theorem attempt_spec {x : ExceptT ε (Prog Call Reply) α} {failed : ε → World → Prop}
    (h : Spec S permit D run pre x ok failed) :
    Spec S permit D run pre (attempt x) (outcome ok failed) err := Spec.lift h

theorem attempt_keeps {x : ExceptT ε (Prog Call Reply) α} {keep : World → Prop}
    (h : Spec S permit D run keep x (fun _ => keep) (fun _ => keep)) :
    Spec S permit D run keep (attempt x) (fun _ => keep) err := by
  refine Spec.weaken_ok (attempt_spec h) ?_
  intro result w _ holds
  cases result <;> exact holds

theorem ofResult_bind_spec {result : Except ε β} {f : β → ExceptT ε (Prog Call Reply) α}
    (passed : ∀ value, result = .ok value → Spec S permit D run pre (f value) ok err)
    (failed : ∀ error w, result = .error error → D.inv w → pre w → err error w) :
    Spec S permit D run pre (ofResult result >>= f) ok err := by
  cases result with
  | error error => exact Spec.throw fun w good holds => failed error w rfl good holds
  | ok value => exact passed value rfl

theorem bracket_spec {enter leave : ExceptT ε (Prog Call Reply) Unit}
    {body : ExceptT ε (Prog Call Reply) α} {held : World → Prop} {bodyOk : α → World → Prop}
    {bodyErr : ε → World → Prop}
    (entered : Spec S permit D run pre enter (fun _ => held) err)
    (inside : Spec S permit D run held body bodyOk bodyErr)
    (leftOk : ∀ value, Spec S permit D run (bodyOk value) leave (fun _ => ok value) err)
    (leftErr : ∀ error, Spec S permit D run (bodyErr error) leave (fun _ => err error) err) :
    Spec S permit D run pre (bracket enter leave body) ok err := by
  refine Spec.bind entered fun _ => Spec.bind (attempt_spec inside) fun result => ?_
  cases result with
  | ok value => exact Spec.bind (leftOk value) fun _ => fun _ _ holds => holds
  | error error => exact Spec.bind (leftErr error) fun _ => fun _ _ holds => holds

theorem each_spec {items : List β} {body : β → ExceptT ε (Prog Call Reply) Unit}
    (inv : List β → World → Prop)
    (step : ∀ done item rest, items = done ++ item :: rest →
      Spec S permit D run (inv done) (body item) (fun _ => inv (done ++ [item])) err) :
    Spec S permit D run (inv []) (each items body) (fun _ => inv items) err := by
  suffices later : ∀ rest done, items = done ++ rest →
      Spec S permit D run (inv done) (each rest body) (fun _ => inv items) err from
    later items [] rfl
  intro rest
  induction rest with
  | nil =>
    intro done split
    rw [split, List.append_nil]
    exact Spec.pure fun _ _ holds => holds
  | cons item rest ih =>
    intro done split
    exact Spec.bind (step done item rest split) fun _ => ih (done ++ [item]) (by simp [split])

theorem each_keeps {items : List β} {body : β → ExceptT ε (Prog Call Reply) Unit}
    {keep : World → Prop}
    (step : ∀ item ∈ items, Spec S permit D run keep (body item) (fun _ => keep) err) :
    Spec S permit D run keep (each items body) (fun _ => keep) err := by
  induction items with
  | nil => exact Spec.pure fun _ _ holds => holds
  | cons item rest ih =>
    exact Spec.bind (step item (by simp)) fun _ => ih fun other member =>
      step other (by simp [member])

end Rules

end Interleave.Failing
