import Galoy.Interleave.Pool

set_option autoImplicit false

namespace Interleave

variable {World Call : Type} {Reply : Call → Type} {α β ε : Type}

structure Discipline (World : Type) where
  inv : World → Prop
  rely : RunId → World → World → Prop
  rely_refl : ∀ run w, rely run w w
  rely_trans : ∀ run a b c, rely run a b → rely run b c → rely run a c

def Discipline.solo (World : Type) (run : RunId) : Discipline World where
  inv := fun _ => True
  rely := fun other before after => other = run → before = after
  rely_refl := fun _ _ _ => rfl
  rely_trans := fun _ _ _ _ first second own => (first own).trans (second own)

def Discipline.Stable (D : Discipline World) (run : RunId) (P : World → Prop) : Prop :=
  ∀ before after, D.rely run before after → D.inv after → P before → P after

theorem Discipline.stable_true (D : Discipline World) (run : RunId) :
    D.Stable run (fun _ => True) :=
  fun _ _ _ _ _ => trivial

theorem Discipline.Stable.and {D : Discipline World} {run : RunId} {P Q : World → Prop}
    (first : D.Stable run P) (second : D.Stable run Q) : D.Stable run (fun w => P w ∧ Q w) :=
  fun before after between good holds =>
    ⟨first before after between good holds.1, second before after between good holds.2⟩

def Discipline.Guaranteed (D : Discipline World) (run : RunId) (before after : World) : Prop :=
  D.inv after ∧ ∀ other, other ≠ run → D.rely other before after

theorem Discipline.Guaranteed.trans {D : Discipline World} {run : RunId}
    {before middle after : World} (first : D.Guaranteed run before middle)
    (second : D.Guaranteed run middle after) :
    D.Guaranteed run before after :=
  ⟨second.1, fun other different => D.rely_trans _ _ _ _ (first.2 other different)
    (second.2 other different)⟩

section Wp

variable (S : Service World Call Reply) (permit : Permit S) (D : Discipline World) (run : RunId)

def wp : Prog Call Reply α → (α → World → Prop) → World → Prop
  | .pure value, post, w => post value w
  | .call c next, post, w =>
    ∀ before, D.rely run w before → D.inv before →
      ∀ a reply after, permit run before c a → S.serve run before c a = some (reply, after) →
        D.Guaranteed run before after ∧ wp (next reply) post after

def Triple (pre : World → Prop) (p : Prog Call Reply α) (post : α → World → Prop) : Prop :=
  ∀ w, D.inv w → pre w → wp S permit D run p post w

variable {S permit D run}

theorem wp_mono {p : Prog Call Reply α} {post weaker : α → World → Prop} {w : World}
    (implies : ∀ value w, D.inv w → post value w → weaker value w)
    (good : D.inv w) (h : wp S permit D run p post w) : wp S permit D run p weaker w := by
  induction p generalizing w with
  | pure value => exact implies value w good h
  | call c next ih =>
    intro before between goodBefore a reply after allowed served
    obtain ⟨kept, rest⟩ := h before between goodBefore a reply after allowed served
    exact ⟨kept, ih reply kept.1 rest⟩

theorem wp_bind (p : Prog Call Reply α) (f : α → Prog Call Reply β) (post : β → World → Prop)
    (w : World) :
    wp S permit D run (p >>= f) post w ↔
      wp S permit D run p (fun value => wp S permit D run (f value) post) w := by
  induction p generalizing w with
  | pure value => exact Iff.rfl
  | call c next ih =>
    simp only [Prog.bind_call, wp, ih]

theorem wp_rely {p : Prog Call Reply α} {post : α → World → Prop} {before after : World}
    (stable : ∀ value, D.Stable run (post value))
    (good : D.inv after) (between : D.rely run before after)
    (h : wp S permit D run p post before) : wp S permit D run p post after := by
  cases p with
  | pure value => exact stable value before after between good h
  | call c next =>
    intro middle later
    exact h middle (D.rely_trans _ _ _ _ between later)

theorem step_sound {post : RunId → α → World → Prop} {before after : Config World Call Reply α}
    (stable : ∀ run value, D.Stable run (post run value))
    (good : D.inv before.world)
    (runs : ∀ run, wp S permit D run (before.pool run) (post run) before.world)
    (step : Step S permit before after) :
    D.inv after.world ∧ ∀ run, wp S permit D run (after.pool run) (post run) after.world := by
  obtain ⟨run, c, next, here, a, reply, w, allowed, served, rfl⟩ := step
  have own := runs run
  rw [here] at own
  obtain ⟨kept, rest⟩ :=
    own before.world (D.rely_refl _ _) good a reply w allowed served
  refine ⟨kept.1, ?_⟩
  intro other
  by_cases same : other = run
  · subst same
    simpa using rest
  · have others := wp_rely (stable other) kept.1 (kept.2 other same) (runs other)
    simpa [Function.update_of_ne same] using others

theorem reach_sound {post : RunId → α → World → Prop} {before after : Config World Call Reply α}
    (stable : ∀ run value, D.Stable run (post run value))
    (good : D.inv before.world)
    (runs : ∀ run, wp S permit D run (before.pool run) (post run) before.world)
    (reach : Reach S permit before after) :
    D.inv after.world ∧ ∀ run, wp S permit D run (after.pool run) (post run) after.world := by
  induction reach with
  | refl => exact ⟨good, runs⟩
  | tail _ step ih => exact step_sound stable ih.1 ih.2 step

theorem reach_post {post : RunId → α → World → Prop} {before after : Config World Call Reply α}
    (stable : ∀ run value, D.Stable run (post run value))
    (good : D.inv before.world)
    (runs : ∀ run, wp S permit D run (before.pool run) (post run) before.world)
    (reach : Reach S permit before after) {run : RunId} {value : α}
    (done : after.pool run = .pure value) : post run value after.world := by
  have last := (reach_sound stable good runs reach).2 run
  rw [done] at last
  exact last

theorem reach_inv {before after : Config World Call Reply α} (good : D.inv before.world)
    (runs : ∀ run, wp S permit D run (before.pool run) (fun _ _ => True) before.world)
    (reach : Reach S permit before after) : D.inv after.world := by
  have stable : ∀ run (value : α), D.Stable run (fun _ => True) := fun _ _ _ _ _ _ h => h
  exact (reach_sound stable good runs reach).1

theorem eval_sound {answers : (c : Call) → S.Answer c} {p : Prog Call Reply α}
    {post : α → World → Prop} {w w' : World} {value : α}
    (allowed : ∀ w c, permit run w c (answers c)) (good : D.inv w)
    (h : wp S permit D run p post w) (out : eval S run answers p w = some (value, w')) :
    D.inv w' ∧ post value w' := by
  induction p generalizing w with
  | pure result =>
    cases out
    exact ⟨good, h⟩
  | call c next ih =>
    simp only [eval_call, Option.bind_eq_some_iff] at out
    obtain ⟨⟨reply, after⟩, served, rest⟩ := out
    obtain ⟨kept, later⟩ :=
      h w (D.rely_refl _ _) good (answers c) reply after (allowed w c) served
    exact ih reply kept.1 later rest

theorem Triple.conseq {pre stronger : World → Prop} {p : Prog Call Reply α}
    {post weaker : α → World → Prop}
    (h : Triple S permit D run pre p post) (enough : ∀ w, D.inv w → stronger w → pre w)
    (implies : ∀ value w, D.inv w → post value w → weaker value w) :
    Triple S permit D run stronger p weaker := by
  intro w good holds
  exact wp_mono implies good (h w good (enough w good holds))

theorem Triple.bind {pre : World → Prop} {p : Prog Call Reply α} {mid : α → World → Prop}
    {f : α → Prog Call Reply β} {post : β → World → Prop}
    (first : Triple S permit D run pre p mid)
    (rest : ∀ value, Triple S permit D run (mid value) (f value) post) :
    Triple S permit D run pre (p >>= f) post := by
  intro w good holds
  rw [wp_bind]
  exact wp_mono (fun value w kept now => rest value w kept now) good (first w good holds)

theorem Triple.discard {pre : World → Prop} {p : Prog Call Reply α} {post : α → World → Prop}
    (h : Triple S permit D run pre p post) :
    Triple S permit D run pre (p >>= fun _ => .pure ()) (fun _ _ => True) :=
  Triple.bind h fun _ _ _ _ => trivial

theorem wp_frame {keep : World → Prop} (stable : D.Stable run keep)
    (kept : ∀ c before a reply after, keep before →
      S.serve run before c a = some (reply, after) → keep after)
    {p : Prog Call Reply α} {post : α → World → Prop} {w : World}
    (h : wp S permit D run p post w) (holds : keep w) :
    wp S permit D run p (fun value w => post value w ∧ keep w) w := by
  induction p generalizing w with
  | pure value => exact ⟨h, holds⟩
  | call c next ih =>
    intro before between good a reply after allowed served
    obtain ⟨guaranteed, rest⟩ := h before between good a reply after allowed served
    have now := stable w before between good holds
    exact ⟨guaranteed, ih reply rest (kept c before a reply after now served)⟩

theorem Triple.frame {keep : World → Prop} (stable : D.Stable run keep)
    (kept : ∀ c before a reply after, keep before →
      S.serve run before c a = some (reply, after) → keep after)
    {pre : World → Prop} {p : Prog Call Reply α} {post : α → World → Prop}
    (h : Triple S permit D run pre p post) :
    Triple S permit D run (fun w => pre w ∧ keep w) p (fun value w => post value w ∧ keep w) :=
  fun w good holds => wp_frame stable kept (h w good holds.1) holds.2

theorem Triple.request {pre : World → Prop} {c : Call} {post : Reply c → World → Prop}
    (stable : D.Stable run pre)
    (h : ∀ before a reply after, D.inv before → pre before → permit run before c a →
      S.serve run before c a = some (reply, after) →
      D.Guaranteed run before after ∧ post reply after) :
    Triple S permit D run pre (Prog.request c) post := by
  intro w _ holds before between goodBefore a reply after allowed served
  exact h before a reply after goodBefore (stable w before between goodBefore holds) allowed served

theorem solo_stable (P : World → Prop) : (Discipline.solo World run).Stable run P := by
  intro before after between _ holds
  rw [← between rfl]
  exact holds

theorem solo_guaranteed (before after : World) :
    (Discipline.solo World run).Guaranteed run before after :=
  ⟨trivial, fun _ different own => absurd own different⟩

end Wp

section Solo

def answering (S : Service World Call Reply) (answers : (c : Call) → S.Answer c) : Permit S :=
  fun _ _ c a => a = answers c

variable {S : Service World Call Reply} {answers : (c : Call) → S.Answer c} {run : RunId}

theorem solo_sound {pre : World → Prop} {p : Prog Call Reply α} {post : α → World → Prop}
    {w after : World} {value : α}
    (h : Triple S (answering S answers) (.solo World run) run pre p post) (holds : pre w)
    (evaluated : eval S run answers p w = some (value, after)) : post value after :=
  (eval_sound (fun _ _ => rfl) trivial (h w trivial holds) evaluated).2

theorem Triple.solo_request {pre : World → Prop} {c : Call} {post : Reply c → World → Prop}
    (h : ∀ before reply after, pre before → S.serve run before c (answers c) = some (reply, after) →
      post reply after) :
    Triple S (answering S answers) (.solo World run) run pre (Prog.request c) post := by
  refine Triple.request (solo_stable pre) ?_
  rintro before a reply after _ holds rfl served
  exact ⟨solo_guaranteed before after, h before reply after holds served⟩

theorem solo_keeps (keep : World → Prop) {p : Prog Call Reply α}
    (kept : ∀ c before reply after, keep before →
      S.serve run before c (answers c) = some (reply, after) → keep after) :
    Triple S (answering S answers) (.solo World run) run keep p (fun _ => keep) := by
  induction p with
  | pure value => exact fun _ _ holds => holds
  | call c next ih =>
    rintro w _ holds before between _ _ reply after rfl served
    rw [between rfl] at holds
    exact ⟨solo_guaranteed before after, ih reply after trivial
      (kept c before reply after holds served)⟩

end Solo

end Interleave
