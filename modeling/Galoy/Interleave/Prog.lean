import Mathlib.Logic.Function.Basic

set_option autoImplicit false

namespace Interleave

inductive Prog (Call : Type) (Reply : Call → Type) (α : Type) where
  | pure (value : α)
  | call (request : Call) (next : Reply request → Prog Call Reply α)

namespace Prog

variable {Call : Type} {Reply : Call → Type} {α β γ : Type}

def bind : Prog Call Reply α → (α → Prog Call Reply β) → Prog Call Reply β
  | .pure value, rest => rest value
  | .call request next, rest => .call request fun reply => (next reply).bind rest

instance : Monad (Prog Call Reply) where
  pure := Prog.pure
  bind := Prog.bind

def request (c : Call) : Prog Call Reply (Reply c) :=
  .call c .pure

@[simp] theorem pure_eq (value : α) : (Pure.pure value : Prog Call Reply α) = .pure value := rfl

@[simp] theorem bind_pure_left (value : α) (rest : α → Prog Call Reply β) :
    (Prog.pure value >>= rest) = rest value := rfl

@[simp] theorem bind_call (c : Call) (next : Reply c → Prog Call Reply α)
    (rest : α → Prog Call Reply β) :
    (Prog.call c next >>= rest) = .call c fun reply => next reply >>= rest := rfl

theorem bind_assoc (p : Prog Call Reply α) (f : α → Prog Call Reply β)
    (g : β → Prog Call Reply γ) :
    (p >>= f >>= g) = p >>= fun value => f value >>= g := by
  induction p with
  | pure value => rfl
  | call c next ih =>
    simp only [bind_call]
    congr 1
    funext reply
    exact ih reply

def result? : Prog Call Reply α → Option α
  | .pure value => some value
  | .call _ _ => none

theorem result?_eq_some {p : Prog Call Reply α} {value : α} : p.result? = some value ↔
    p = .pure value := by
  cases p <;> simp [result?]

end Prog

end Interleave
