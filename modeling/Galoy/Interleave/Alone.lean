import Galoy.Interleave.Failing

set_option autoImplicit false

namespace Interleave

variable {World Call : Type} {Reply : Call → Type} {α β ε : Type}

section Ends

variable (S : Service World Call Reply) (run : RunId) (answers : (c : Call) → S.Answer c)

def Ends (p : Prog Call Reply α) (w : World) (post : α → World → Prop) : Prop :=
  ∃ value after, eval S run answers p w = some (value, after) ∧ post value after

variable {S run answers} {w : World}

theorem Ends.mono {p : Prog Call Reply α} {post weaker : α → World → Prop}
    (h : Ends S run answers p w post) (implies : ∀ value after, post value after →
      weaker value after) :
    Ends S run answers p w weaker := by
  obtain ⟨value, after, evaluated, holds⟩ := h
  exact ⟨value, after, evaluated, implies value after holds⟩

theorem ends_pure {value : α} {post : α → World → Prop} :
    Ends S run answers (.pure value : Prog Call Reply α) w post ↔ post value w := by
  constructor
  · rintro ⟨_, _, evaluated, holds⟩
    cases evaluated
    exact holds
  · exact fun holds => ⟨value, w, rfl, holds⟩

theorem ends_bind {p : Prog Call Reply α} {f : α → Prog Call Reply β} {post : β → World → Prop} :
    Ends S run answers (p >>= f) w post ↔
      Ends S run answers p w (fun value after => Ends S run answers (f value) after post) := by
  constructor
  · rintro ⟨value, after, evaluated, holds⟩
    rw [eval_bind] at evaluated
    obtain ⟨⟨middle, between⟩, first, rest⟩ := Option.bind_eq_some_iff.mp evaluated
    exact ⟨middle, between, first, value, after, rest, holds⟩
  · rintro ⟨middle, between, first, value, after, rest, holds⟩
    refine ⟨value, after, ?_, holds⟩
    rw [eval_bind, first]
    exact rest

theorem ends_request {c : Call} {post : Reply c → World → Prop} :
    Ends S run answers (Prog.request c) w post ↔
      ∃ reply after, S.serve run w c (answers c) = some (reply, after) ∧ post reply after := by
  unfold Ends Prog.request
  simp only [eval_call, eval_pure, Option.bind_eq_some_iff]
  constructor
  · rintro ⟨reply, after, ⟨_, served, same⟩, holds⟩
    cases same
    exact ⟨_, _, served, holds⟩
  · rintro ⟨reply, after, served, holds⟩
    exact ⟨reply, after, ⟨_, served, rfl⟩, holds⟩

theorem ends_of_served (served : ∀ w c, ∃ out, S.serve run w c (answers c) = some out)
    (p : Prog Call Reply α) :
    Ends S run answers p w (fun _ _ => True) := by
  induction p generalizing w with
  | pure value => exact ends_pure.mpr trivial
  | call c next ih =>
    obtain ⟨⟨reply, middle⟩, now⟩ := served w c
    obtain ⟨value, after, evaluated, _⟩ := @ih reply middle
    refine ⟨value, after, ?_, trivial⟩
    rw [eval_call, now]
    exact evaluated

theorem eval_alike {allowed : Call → Prop} {alike : World → Prop} (same : World → World → Prop)
    (refl : ∀ w, same w w) (trans : ∀ first second third, same first second → same second third →
      same first third)
    (served : ∀ c, allowed c → ∃ reply, ∀ w, alike w →
      ∃ after, S.serve run w c (answers c) = some (reply, after) ∧ alike after ∧ same w after)
    {p : Prog Call Reply α} (only : p.Only allowed) :
    ∃ value, ∀ w, alike w → ∃ after, eval S run answers p w = some (value, after) ∧ alike after ∧
      same w after := by
  induction p with
  | pure value => exact ⟨value, fun w holds => ⟨w, rfl, holds, refl w⟩⟩
  | call c next ih =>
    obtain ⟨reply, first⟩ := served c only.1
    obtain ⟨value, rest⟩ := ih reply (only.2 reply)
    refine ⟨value, fun w holds => ?_⟩
    obtain ⟨middle, now, alikeMiddle, sameMiddle⟩ := first w holds
    obtain ⟨after, evaluated, alikeAfter, sameAfter⟩ := rest middle alikeMiddle
    refine ⟨after, ?_, alikeAfter, trans w middle after sameMiddle sameAfter⟩
    rw [eval_call, now]
    exact evaluated

end Ends

section Failing

variable (S : Service World Call Reply) (run : RunId) (answers : (c : Call) → S.Answer c)

def EndsRun (x : ExceptT ε (Prog Call Reply) α) (w : World) (post : Except ε α → World → Prop) :
    Prop :=
  Ends S run answers x.run w post

variable {S run answers} {w : World}

theorem EndsRun.mono {x : ExceptT ε (Prog Call Reply) α} {post weaker : Except ε α → World → Prop}
    (h : EndsRun S run answers x w post)
    (implies : ∀ result after, post result after → weaker result after) :
    EndsRun S run answers x w weaker := Ends.mono h implies

@[simp] theorem endsRun_pure {value : α} {post : Except ε α → World → Prop} :
    EndsRun S run answers (pure value : ExceptT ε (Prog Call Reply) α) w post ↔
      post (.ok value) w :=
  ends_pure

@[simp] theorem endsRun_throw {error : ε} {post : Except ε α → World → Prop} :
    EndsRun S run answers (throw error : ExceptT ε (Prog Call Reply) α) w post ↔
      post (.error error) w :=
  ends_pure

theorem endsRun_bind {x : ExceptT ε (Prog Call Reply) α} {f : α → ExceptT ε (Prog Call Reply) β}
    {post : Except ε β → World → Prop} :
    EndsRun S run answers (x >>= f) w post ↔
      EndsRun S run answers x w
        (outcome (fun value after => EndsRun S run answers (f value) after post)
          (fun error after => post (.error error) after)) := by
  refine Iff.trans (ends_bind (p := x.run) (f := ExceptT.bindCont f)) ?_
  constructor
  · intro h
    refine h.mono fun result after holds => ?_
    cases result with
    | ok value => exact holds
    | error error =>
      have ended : post (.error error) after := ends_pure.mp holds
      exact ended
  · intro h
    refine h.mono fun result after holds => ?_
    cases result with
    | ok value => exact holds
    | error error =>
      have ended : post (.error error) after := holds
      exact ends_pure.mpr ended

end Failing

section Steps

open Interleave.Failing

variable {S : Service World Call Reply} {run : RunId} {answers : (c : Call) → S.Answer c}
  {w after : World} {post : Except ε β → World → Prop}

theorem EndsRun.next {x : ExceptT ε (Prog Call Reply) α} {f : α → ExceptT ε (Prog Call Reply) β}
    {value : α}
    (first : EndsRun S run answers x w (fun result now => result = .ok value ∧ now = after))
    (rest : EndsRun S run answers (f value) after post) : EndsRun S run answers
      (x >>= f) w post := by
  refine endsRun_bind.mpr (first.mono ?_)
  rintro _ _ ⟨rfl, rfl⟩
  exact rest

theorem ends_served {c : Call} {reply : Reply c} {post : Reply c → World → Prop}
    (served : S.serve run w c (answers c) = some (reply, after)) (holds : post reply after) :
    Ends S run answers (Prog.request c) w post :=
  ends_request.mpr ⟨reply, after, served, holds⟩

theorem endsRun_total {p : Prog Call Reply α} {post : Except ε α → World → Prop} :
    EndsRun S run answers (total p : ExceptT ε (Prog Call Reply) α) w post ↔
      Ends S run answers p w (fun value now => post (.ok value) now) := by
  have lifted : (total p : ExceptT ε (Prog Call Reply) α).run = p >>= fun value =>
      .pure (.ok value) := rfl
  unfold EndsRun
  rw [lifted, ends_bind]
  simp only [ends_pure]

theorem EndsRun.bracket {enter leave : ExceptT ε (Prog Call Reply) Unit}
    {body : ExceptT ε (Prog Call Reply) β} {held : World}
    (entered : EndsRun S run answers enter w (fun result now => result = .ok () ∧ now = held))
    (inside : EndsRun S run answers body held (fun result now =>
      EndsRun S run answers leave now (outcome (fun _ later => post result later)
        (fun error later => post (.error error) later)))) :
    EndsRun S run answers (bracket enter leave body) w post := by
  refine EndsRun.next entered
    (endsRun_bind.mpr (endsRun_total.mpr (inside.mono fun result now left => ?_)))
  exact endsRun_bind.mpr (left.mono fun answer later holds => by
    cases answer with
    | error error => exact holds
    | ok _ => exact ends_pure.mpr holds)

theorem EndsRun.each_split {items : List α} {body : α → ExceptT ε (Prog Call Reply) Unit}
    (inv : List α → World → Prop) (start : inv [] w)
    (step : ∀ done item rest, items = done ++ item :: rest → ∀ now, inv done now →
      EndsRun S run answers (body item) now (fun result later => result = .ok () ∧
        inv (done ++ [item]) later)) :
    EndsRun S run answers (Failing.each items body) w
      (fun result later => result = .ok () ∧ inv items later) := by
  suffices later : ∀ rest done now, items = done ++ rest → inv done now →
      EndsRun S run answers (Failing.each rest body) now
        (fun result later => result = .ok () ∧ inv items later) from
    later items [] w rfl start
  intro rest
  induction rest with
  | nil =>
    intro done now split holds
    rw [split, List.append_nil]
    exact endsRun_pure.mpr ⟨rfl, holds⟩
  | cons item rest ih =>
    intro done now split holds
    refine endsRun_bind.mpr ((step done item rest split now holds).mono ?_)
    rintro _ between ⟨rfl, next⟩
    exact ih (done ++ [item]) between (by simp [split]) next

theorem EndsRun.each {items : List α} {body : α → ExceptT ε (Prog Call Reply) Unit}
    (inv : List α → World → Prop) (start : inv [] w)
    (step : ∀ done item, ∀ now, inv done now → EndsRun S run answers (body item) now
      (fun result later => result = .ok () ∧ inv (done ++ [item]) later)) :
    EndsRun S run answers (Failing.each items body) w
      (fun result later => result = .ok () ∧ inv items later) :=
  EndsRun.each_split inv start fun done item _ _ => step done item

end Steps

section Reach

variable {S : Service World Call Reply} {permit : Permit S} {run : RunId}
  {answers : (c : Call) → S.Answer c} {keep : World → Prop}

theorem Ends.reach {before : Config World Call Reply α} {post : α → World → Prop}
    (allowed : ∀ w c, keep w → permit run w c (answers c))
    (kept : ∀ w c reply after, keep w → S.serve run w c (answers c) = some (reply, after) →
      keep after)
    (now : keep before.world) (ends : Ends S run answers (before.pool run) before.world post) :
    ∃ after, Reach S permit before after ∧ ∃ value, post value after.world := by
  obtain ⟨value, last, evaluated, holds⟩ := ends
  generalize here : before.pool run = p at evaluated
  induction p generalizing before with
  | pure result =>
    cases evaluated
    exact ⟨before, .refl, value, holds⟩
  | call c next ih =>
    simp only [eval_call, Option.bind_eq_some_iff] at evaluated
    obtain ⟨⟨reply, w⟩, served, rest⟩ := evaluated
    have step : Step S permit before ⟨w, Function.update before.pool run (next reply)⟩ :=
      ⟨run, c, next, here, answers c, reply, w, allowed _ c now, served, rfl⟩
    have left : Function.update before.pool run (next reply) run = next reply :=
      Function.update_self _ _ _
    obtain ⟨after, reach, holds⟩ :=
      @ih reply ⟨w, Function.update before.pool run (next reply)⟩
        (kept _ c reply w now served) left rest
    exact ⟨after, .head step reach, holds⟩

end Reach

end Interleave
