import Galoy.Interleave.Prog
import Mathlib.Logic.Relation

set_option autoImplicit false

namespace Interleave

abbrev RunId := Nat

structure Service (World Call : Type) (Reply : Call → Type) where
  Answer : Call → Type
  serve : RunId → World → (c : Call) → Answer c → Option (Reply c × World)

variable {World Call : Type} {Reply : Call → Type} {α β : Type}

structure Config (World Call : Type) (Reply : Call → Type) (α : Type) where
  world : World
  pool : RunId → Prog Call Reply α

/-- A condition on the steps of a run: it sees the state before the step. -/
abbrev Permit (S : Service World Call Reply) :=
  RunId → World → (c : Call) → S.Answer c → Prop

def anyStep (S : Service World Call Reply) : Permit S := fun _ _ _ _ => True

instance (S : Service World Call Reply) (run : RunId) (w : World) (c : Call) (a : S.Answer c) :
    Decidable (anyStep S run w c a) :=
  inferInstanceAs (Decidable True)

def Step (S : Service World Call Reply) (permit : Permit S)
    (before after : Config World Call Reply α) : Prop :=
  ∃ run c next, before.pool run = .call c next ∧
    ∃ a reply w, permit run before.world c a ∧
      S.serve run before.world c a = some (reply, w) ∧
      after = ⟨w, Function.update before.pool run (next reply)⟩

def Reach (S : Service World Call Reply) (permit : Permit S) :
    Config World Call Reply α → Config World Call Reply α → Prop :=
  Relation.ReflTransGen (Step S permit)

theorem Reach.mono {S : Service World Call Reply} {strict loose : Permit S}
    (weaker : ∀ run w c a, strict run w c a → loose run w c a)
    {before after : Config World Call Reply α} (h : Reach S strict before after) :
    Reach S loose before after := by
  refine Relation.ReflTransGen.mono ?_ _ _ h
  rintro first second ⟨run, c, next, here, a, reply, w, allowed, served, rfl⟩
  exact ⟨run, c, next, here, a, reply, w, weaker _ _ _ _ allowed, served, rfl⟩

abbrev Script (S : Service World Call Reply) := RunId → (c : Call) → S.Answer c

def advance (S : Service World Call Reply) (permit : Permit S)
    [∀ run w c a, Decidable (permit run w c a)] (script : Script S)
    (run : RunId) (before : Config World Call Reply α) : Option (Config World Call Reply α) :=
  match before.pool run with
  | .pure _ => none
  | .call c next =>
    if permit run before.world c (script run c) then
      match S.serve run before.world c (script run c) with
      | none => none
      | some (reply, w) => some ⟨w, Function.update before.pool run (next reply)⟩
    else none

def play (S : Service World Call Reply) (permit : Permit S)
    [∀ run w c a, Decidable (permit run w c a)] (script : Script S) :
    List RunId → Config World Call Reply α → Option (Config World Call Reply α)
  | [], before => some before
  | run :: schedule, before =>
    (advance S permit script run before).bind (play S permit script schedule)

theorem advance_step (S : Service World Call Reply) (permit : Permit S)
    [∀ run w c a, Decidable (permit run w c a)] (script : Script S) (run : RunId)
    (before after : Config World Call Reply α)
    (h : advance S permit script run before = some after) : Step S permit before after := by
  unfold advance at h
  split at h
  · cases h
  · rename_i c next here
    split at h
    · rename_i allowed
      split at h
      · cases h
      · rename_i reply w served
        cases h
        exact ⟨run, c, next, here, script run c, reply, w, allowed, served, rfl⟩
    · cases h

theorem play_reach (S : Service World Call Reply) (permit : Permit S)
    [∀ run w c a, Decidable (permit run w c a)] (script : Script S) (schedule : List RunId)
    (before after : Config World Call Reply α)
    (h : play S permit script schedule before = some after) : Reach S permit before after := by
  induction schedule generalizing before with
  | nil =>
    cases h
    exact Relation.ReflTransGen.refl
  | cons run schedule ih =>
    obtain ⟨middle, first, rest⟩ := Option.bind_eq_some_iff.mp h
    exact Relation.ReflTransGen.head (advance_step S permit script run before middle first)
      (ih middle rest)

def eval (S : Service World Call Reply) (run : RunId) (answers : (c : Call) → S.Answer c) :
    Prog Call Reply α → World → Option (α × World)
  | .pure value, w => some (value, w)
  | .call c next, w =>
    match S.serve run w c (answers c) with
    | none => none
    | some (reply, w') => eval S run answers (next reply) w'

section Eval

variable (S : Service World Call Reply) (run : RunId) (answers : (c : Call) → S.Answer c)

@[simp] theorem eval_pure (value : α) (w : World) :
    eval S run answers (.pure value) w = some (value, w) := rfl

theorem eval_call (c : Call) (next : Reply c → Prog Call Reply α) (w : World) :
    eval S run answers (.call c next) w =
      (S.serve run w c (answers c)).bind fun served => eval S run answers
        (next served.1) served.2 := by
  simp only [eval]
  cases S.serve run w c (answers c) <;> rfl

theorem eval_bind (p : Prog Call Reply α) (f : α → Prog Call Reply β) (w : World) :
    eval S run answers (p >>= f) w =
      (eval S run answers p w).bind fun out => eval S run answers (f out.1) out.2 := by
  induction p generalizing w with
  | pure value => rfl
  | call c next ih =>
    simp only [Prog.bind_call, eval_call, Option.bind_assoc]
    cases S.serve run w c (answers c) with
    | none => rfl
    | some served => exact ih served.1 served.2

end Eval

end Interleave
