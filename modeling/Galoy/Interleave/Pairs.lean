import Galoy.Interleave.Failing

set_option autoImplicit false

namespace Interleave

variable {World Call : Type} {Reply : Call → Type} {α β γ δ ε : Type}

def sameOutcome (related : α → β → Prop) : Except ε α → Except ε β → Prop
  | .ok value, .ok other => related value other
  | .error error, .error other => error = other
  | _, _ => False

section Pairs

variable (S : Service World Call Reply) (run : RunId) (answers : (c : Call) → S.Answer c)

def Paired (related : α → β → Prop) (p : Prog Call Reply α) (q : Prog Call Reply β)
    (w : World) : Prop :=
  Option.Rel (fun left right => related left.1 right.1 ∧ left.2 = right.2)
    (eval S run answers p w) (eval S run answers q w)

def PairedRun (related : α → β → Prop) (x : ExceptT ε (Prog Call Reply) α)
    (y : ExceptT ε (Prog Call Reply) β) (w : World) : Prop :=
  Paired S run answers (sameOutcome related) x.run y.run w

variable {S run answers} {w : World}

theorem eval_request (c : Call) : eval S run answers (Prog.request c) w =
    S.serve run w c (answers c) := by
  rw [Prog.request, eval_call]
  cases S.serve run w c (answers c) <;> rfl

theorem eval_keeps {kept : World → Prop}
    (keeps : ∀ w c reply after, kept w → S.serve run w c (answers c) = some (reply, after) →
      kept after)
    {p : Prog Call Reply α} {value : α} {after : World} (now : kept w)
    (evaluated : eval S run answers p w = some (value, after)) : kept after := by
  induction p generalizing w with
  | pure result =>
    cases evaluated
    exact now
  | call c next ih =>
    rw [eval_call] at evaluated
    obtain ⟨⟨reply, middle⟩, served, rest⟩ := Option.bind_eq_some_iff.mp evaluated
    exact ih reply (keeps w c reply middle now served) rest

theorem Paired.of_eval {p q : Prog Call Reply α}
    (same : eval S run answers p w = eval S run answers q w) :
    Paired S run answers Eq p q w := by
  unfold Paired
  rw [same]
  cases eval S run answers q w with
  | none => exact .none
  | some out => exact .some ⟨rfl, rfl⟩

theorem Paired.mono {related weaker : α → β → Prop} {p : Prog Call Reply α} {q : Prog Call Reply β}
    (paired : Paired S run answers related p q w)
    (implies : ∀ value other, related value other → weaker value other) :
    Paired S run answers weaker p q w := by
  unfold Paired at *
  generalize eval S run answers p w = left at *
  generalize eval S run answers q w = right at *
  cases paired with
  | none => exact .none
  | some holds => exact .some ⟨implies _ _ holds.1, holds.2⟩

theorem Paired.pure {related : α → β → Prop} {value : α} {other : β} (holds : related value other) :
    Paired S run answers related (.pure value) (.pure other) w :=
  .some ⟨holds, rfl⟩

theorem Paired.bind {related : α → β → Prop} {later : γ → δ → Prop} {p : Prog Call Reply α}
    {q : Prog Call Reply β} {f : α → Prog Call Reply γ} {g : β → Prog Call Reply δ}
    (first : Paired S run answers related p q w)
    (rest : ∀ value other after, eval S run answers p w = some (value, after) →
      related value other →
      Paired S run answers later (f value) (g other) after) :
    Paired S run answers later (p >>= f) (q >>= g) w := by
  unfold Paired at first ⊢
  rw [eval_bind, eval_bind]
  generalize eval S run answers p w = left at first rest ⊢
  generalize eval S run answers q w = right at first ⊢
  cases first with
  | none => exact .none
  | some holds =>
    rename_i out other
    have next := rest out.1 other.1 out.2 rfl holds.1
    rw [Option.bind_some, Option.bind_some, ← holds.2]
    exact next

theorem sameOutcome_refl (result : Except ε α) : sameOutcome Eq result result := by
  cases result <;> rfl

theorem PairedRun.of_eval {x y : ExceptT ε (Prog Call Reply) α}
    (same : eval S run answers x.run w = eval S run answers y.run w) :
    PairedRun S run answers Eq x y w := by
  refine (Paired.of_eval same).mono ?_
  rintro result _ rfl
  exact sameOutcome_refl result

theorem PairedRun.total {related : α → β → Prop} {p : Prog Call Reply α} {q : Prog Call Reply β}
    (paired : Paired S run answers related p q w) :
    PairedRun S run answers related (Failing.total p : ExceptT ε (Prog Call Reply) α)
      (Failing.total q) w :=
  Paired.bind paired fun _ _ _ _ holds => Paired.pure holds

theorem PairedRun.pure {related : α → β → Prop} {value : α} {other : β}
    (holds : related value other) :
    PairedRun S run answers related (pure value : ExceptT ε (Prog Call Reply) α) (pure other) w :=
  Paired.pure holds

theorem PairedRun.throw {related : α → β → Prop} (error : ε) :
    PairedRun S run answers related (throw error : ExceptT ε (Prog Call Reply) α) (throw error) w :=
  Paired.pure rfl

theorem PairedRun.bind {related : α → β → Prop} {later : γ → δ → Prop}
    {x : ExceptT ε (Prog Call Reply) α} {y : ExceptT ε (Prog Call Reply) β}
    {f : α → ExceptT ε (Prog Call Reply) γ} {g : β → ExceptT ε (Prog Call Reply) δ}
    (first : PairedRun S run answers related x y w)
    (rest : ∀ value other after, eval S run answers x.run w = some (.ok value, after) →
      related value other →
      PairedRun S run answers later (f value) (g other) after) :
    PairedRun S run answers later (x >>= f) (y >>= g) w := by
  refine Paired.bind (f := ExceptT.bindCont f) (g := ExceptT.bindCont g) first ?_
  intro result other after evaluated holds
  cases result with
  | ok value =>
    cases other with
    | ok other => exact rest value other after evaluated holds
    | error error => cases holds
  | error error =>
    cases other with
    | ok other => cases holds
    | error other =>
      cases holds
      exact Paired.pure rfl

theorem PairedRun.step {later : γ → δ → Prop} {x : ExceptT ε (Prog Call Reply) α}
    {f : α → ExceptT ε (Prog Call Reply) γ} {g : α → ExceptT ε (Prog Call Reply) δ}
    (rest : ∀ value after, eval S run answers x.run w = some (.ok value, after) →
      PairedRun S run answers later (f value) (g value) after) :
    PairedRun S run answers later (x >>= f) (x >>= g) w := by
  refine (PairedRun.of_eval rfl).bind ?_
  rintro value _ after evaluated rfl
  exact rest value after evaluated

end Pairs

end Interleave
