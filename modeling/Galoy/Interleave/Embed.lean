import Galoy.Interleave.Alone

set_option autoImplicit false

namespace Interleave

variable {World Call Wide WideCall : Type} {Reply : Call → Type}
  {WideReply : WideCall → Type} {α ε : Type}

structure Embedding (Call : Type) (Reply : Call → Type) (WideCall : Type)
    (WideReply : WideCall → Type) where
  call : Call → WideCall
  reply : (c : Call) → WideReply (call c) → Reply c

def Prog.embed (e : Embedding Call Reply WideCall WideReply) : Prog Call Reply α →
    Prog WideCall WideReply α
  | .pure value => .pure value
  | .call c next => .call (e.call c) fun reply => (next (e.reply c reply)).embed e

def embedRun (e : Embedding Call Reply WideCall WideReply) (x : ExceptT ε (Prog Call Reply) α) :
    ExceptT ε (Prog WideCall WideReply) α :=
  ExceptT.mk (x.run.embed e)

variable {e : Embedding Call Reply WideCall WideReply}

theorem Prog.only_embed {allowed : WideCall → Prop} (all : ∀ c, allowed (e.call c))
    (p : Prog Call Reply α) :
    (p.embed e).Only allowed := by
  induction p with
  | pure value => trivial
  | call c next ih => exact ⟨all c, fun reply => ih (e.reply c reply)⟩

structure Embedding.Serves (e : Embedding Call Reply WideCall WideReply)
    (S : Service World Call Reply) (T : Service Wide WideCall WideReply) (run : RunId)
    (answers : (c : Call) → S.Answer c) (wideAnswers : (c : WideCall) → T.Answer c)
    (view : Wide → World) (same : Wide → Wide → Prop) : Prop where
  refl : ∀ w, same w w
  trans : ∀ first second third, same first second → same second third → same first third
  served : ∀ w c reply next, S.serve run (view w) c (answers c) = some (reply, next) →
    ∃ wideReply after, T.serve run w (e.call c) (wideAnswers (e.call c)) = some (wideReply, after) ∧
      e.reply c wideReply = reply ∧ view after = next ∧ same w after

section Serves

variable {S : Service World Call Reply} {T : Service Wide WideCall WideReply} {run : RunId}
  {answers : (c : Call) → S.Answer c} {wideAnswers : (c : WideCall) → T.Answer c}
  {view : Wide → World} {same : Wide → Wide → Prop}

theorem Embedding.Serves.ends (serves : e.Serves S T run answers wideAnswers view same)
    {p : Prog Call Reply α} {w : Wide} {post : α → World → Prop}
    (ends : Ends S run answers p (view w) post) :
    Ends T run wideAnswers (p.embed e) w (fun value after => post value (view after) ∧
      same w after) := by
  obtain ⟨value, last, evaluated, holds⟩ := ends
  induction p generalizing w with
  | pure result =>
    cases evaluated
    exact ends_pure.mpr ⟨holds, serves.refl w⟩
  | call c next ih =>
    rw [eval_call] at evaluated
    obtain ⟨⟨reply, middle⟩, served, rest⟩ := Option.bind_eq_some_iff.mp evaluated
    obtain ⟨wideReply, after, wideServed, rfl, rfl, kept⟩ := serves.served w c reply middle served
    obtain ⟨result, later, wideEvaluated, holdsLater, keptLater⟩ := ih (e.reply c wideReply) rest
    refine ⟨result, later, ?_, holdsLater, serves.trans w after later kept keptLater⟩
    rw [Prog.embed, eval_call]
    exact Option.bind_eq_some_iff.mpr ⟨(wideReply, after), wideServed, wideEvaluated⟩

theorem Embedding.Serves.endsRun (serves : e.Serves S T run answers wideAnswers view same)
    {x : ExceptT ε (Prog Call Reply) α} {w : Wide} {post : Except ε α → World → Prop}
    (ends : EndsRun S run answers x (view w) post) :
    EndsRun T run wideAnswers (embedRun e x) w (fun result after => post result (view after) ∧
      same w after) :=
  serves.ends ends

end Serves

/-- Between the requests of the part the wider world does no more to the view than the part relies
on, and what the part guarantees on the view is enough in the wider world. -/
structure Embedding.Within (e : Embedding Call Reply WideCall WideReply)
    (S : Service World Call Reply) (permit : Permit S) (D : Discipline World)
    (T : Service Wide WideCall WideReply) (widePermit : Permit T) (wide : Discipline Wide)
    (run : RunId) (view : Wide → World) : Prop where
  inv : ∀ w, wide.inv w → D.inv (view w)
  rely : ∀ before after, wide.rely run before after → D.rely run (view before) (view after)
  step : ∀ w c a reply after, wide.inv w → widePermit run w (e.call c) a →
    T.serve run w (e.call c) a = some (reply, after) →
    ∃ b, permit run (view w) c b ∧ S.serve run (view w) c b = some (e.reply c reply, view after) ∧
      (D.Guaranteed run (view w) (view after) → wide.Guaranteed run w after)

section Within

variable {S : Service World Call Reply} {permit : Permit S} {D : Discipline World}
  {T : Service Wide WideCall WideReply} {widePermit : Permit T} {wide : Discipline Wide}
  {run : RunId} {view : Wide → World}

theorem Embedding.Within.wp (within : e.Within S permit D T widePermit wide run view)
    {p : Prog Call Reply α} {post : α → World → Prop} {w : Wide}
    (h : Interleave.wp S permit D run p post (view w)) :
    Interleave.wp T widePermit wide run (p.embed e) (fun value w => post value (view w)) w := by
  induction p generalizing w with
  | pure value => exact h
  | call c next ih =>
    intro before between good a reply after allowed served
    obtain ⟨b, permitted, same, enough⟩ := within.step before c a reply after good allowed served
    obtain ⟨kept, rest⟩ :=
      h (view before) (within.rely w before between) (within.inv before good) b _ _ permitted same
    exact ⟨enough kept, ih (e.reply c reply) rest⟩

theorem Embedding.Within.triple (within : e.Within S permit D T widePermit wide run view)
    {p : Prog Call Reply α} {pre : World → Prop} {post : α → World → Prop}
    (h : Triple S permit D run pre p post) :
    Triple T widePermit wide run (fun w => pre (view w)) (p.embed e)
      (fun value w => post value (view w)) :=
  fun w good holds => within.wp (h (view w) (within.inv w good) holds)

end Within

end Interleave
