import Galoy.Interleave.RelyGuarantee
import Mathlib.Order.WellFounded

set_option autoImplicit false

namespace Interleave

variable {World Call : Type} {Reply : Call → Type} {α : Type}

def StepOf (S : Service World Call Reply) (permit : Permit S) (run : RunId)
    (before after : Config World Call Reply α) : Prop :=
  ∃ c next, before.pool run = .call c next ∧
    ∃ a reply w, permit run before.world c a ∧
      S.serve run before.world c a = some (reply, w) ∧
      after = ⟨w, Function.update before.pool run (next reply)⟩

def Idle (start now : Config World Call Reply α) (run : RunId) : Prop :=
  now.pool run = start.pool run ∨ ∃ value, now.pool run = .pure value

def SerialStep (S : Service World Call Reply) (permit : Permit S)
    (start before after : Config World Call Reply α) : Prop :=
  ∃ run, (∀ other, other ≠ run → Idle start before other) ∧ StepOf S permit run before after

def SerialReach (S : Service World Call Reply) (permit : Permit S)
    (start after : Config World Call Reply α) : Prop :=
  Relation.ReflTransGen (SerialStep S permit start) start after

def Prog.Next (left p : Prog Call Reply α) : Prop :=
  ∃ c next reply, p = .call c next ∧ left = next reply

theorem Prog.next_acc (p : Prog Call Reply α) : Acc Prog.Next p := by
  induction p with
  | pure value =>
    constructor
    rintro left ⟨c, next, reply, same, _⟩
    cases same
  | call c next ih =>
    constructor
    rintro left ⟨c, next, reply, same, rfl⟩
    cases same
    exact ih reply

theorem Prog.next_irrefl (p : Prog Call Reply α) : ¬ Relation.TransGen Prog.Next p p := fun loop =>
  (WellFounded.intro Prog.next_acc).transGen.irrefl.irrefl p loop

def Discipline.alone (keep : World → Prop) (run : RunId) : Discipline World :=
  { Discipline.solo World run with inv := keep }

section Alone

variable {S : Service World Call Reply} {permit : Permit S} {keep : World → Prop} {run : RunId}

theorem alone_stable (P : World → Prop) : (Discipline.alone keep run).Stable run P := by
  intro before after same _ holds
  obtain rfl := same rfl
  exact holds

theorem alone_guaranteed {before after : World} (kept : keep after) :
    (Discipline.alone keep run).Guaranteed run before after :=
  ⟨kept, fun _ different own => absurd own different⟩

def Serial (S : Service World Call Reply) (permit : Permit S) (keep rest : World → Prop)
    (start now : Config World Call Reply α) : Prop :=
  keep now.world ∧
    (((∀ run, Idle start now run) ∧ rest now.world) ∨
      ∃ run, (∀ other, other ≠ run → Idle start now other) ∧
        Relation.TransGen Prog.Next (now.pool run) (start.pool run) ∧
        wp S permit (.alone keep run) run (now.pool run) (fun _ => rest) now.world)

variable {rest : World → Prop}

theorem serial_step {start before after : Config World Call Reply α}
    (runs : ∀ run w, keep w → rest w →
      wp S permit (.alone keep run) run (start.pool run) (fun _ => rest) w)
    (now : Serial S permit keep rest start before) (step : SerialStep S permit start before after) :
    Serial S permit keep rest start after := by
  obtain ⟨good, phase⟩ := now
  obtain ⟨run, others, c, next, here, a, reply, w, allowed, served, rfl⟩ := step
  have begins : Idle start before run → rest before.world →
      Relation.ReflTransGen Prog.Next (before.pool run) (start.pool run) ∧
        wp S permit (.alone keep run) run (before.pool run) (fun _ => rest) before.world := by
    rintro (same | ⟨value, ended⟩) resting
    · rw [same]
      exact ⟨.refl, runs run before.world good resting⟩
    · rw [here] at ended
      cases ended
  have holds : Relation.ReflTransGen Prog.Next (before.pool run) (start.pool run) ∧
      wp S permit (.alone keep run) run (before.pool run) (fun _ => rest) before.world := by
    rcases phase with ⟨idle, resting⟩ | ⟨active, idle, underWay, holds⟩
    · exact begins (idle run) resting
    · by_cases same : active = run
      · subst same
        exact ⟨underWay.to_reflTransGen, holds⟩
      · -- The run that was under way has ended: it cannot be where it began.
        refine begins (idle run (Ne.symm same)) ?_
        rcases others active same with begun | ⟨value, ended⟩
        · rw [begun] at underWay
          exact absurd underWay (Prog.next_irrefl _)
        · rw [ended] at holds
          exact holds
  obtain ⟨path, holds⟩ := holds
  have first : Prog.Next (next reply) (before.pool run) := ⟨c, next, reply, here, rfl⟩
  rw [here] at holds
  obtain ⟨kept, later⟩ := holds before.world (fun _ => rfl) good a reply w allowed served
  refine ⟨kept.1, .inr ⟨run, ?_, ?_, by simpa using later⟩⟩
  · intro other different
    have same : (Function.update before.pool run (next reply)) other = before.pool other :=
      Function.update_of_ne different _ _
    simpa only [Idle, same] using others other different
  · simpa using Relation.TransGen.head' first path

theorem serial_inv_rest (rest : World → Prop) {start after : Config World Call Reply α}
    (runs : ∀ run w, keep w → rest w →
      wp S permit (.alone keep run) run (start.pool run) (fun _ => rest) w)
    (good : keep start.world) (resting : rest start.world)
    (reach : SerialReach S permit start after) :
    keep after.world := by
  have serial : Serial S permit keep rest start after := by
    induction reach with
    | refl => exact ⟨good, .inl ⟨fun _ => .inl rfl, resting⟩⟩
    | tail _ step ih => exact serial_step runs ih step
  exact serial.1

theorem serial_inv {start after : Config World Call Reply α}
    (runs : ∀ run w, keep w → wp S permit (.alone keep run) run (start.pool run)
    (fun _ _ => True) w) (good : keep start.world) (reach : SerialReach S permit start after) : keep
    after.world :=
  serial_inv_rest (fun _ => True) (fun run w kept _ => runs run w kept) good trivial reach

end Alone

section Turns

variable (S : Service World Call Reply) (permit : Permit S)
  [∀ run w c a, Decidable (permit run w c a)] (script : Script S)

def playTurns : List (RunId × Nat) → Config World Call Reply α → Option (Config World Call Reply α)
  | [], before => some before
  | (run, steps) :: rest, before =>
    (play S permit script (List.replicate steps run) before).bind fun after =>
      if (after.pool run).result?.isSome then playTurns rest after else none

variable {S permit script}

theorem advance_stepOf {run : RunId} {before after : Config World Call Reply α}
    (h : advance S permit script run before = some after) :
    StepOf S permit run before after ∧ ∀ other, other ≠ run →
      after.pool other = before.pool other := by
  unfold advance at h
  split at h
  · cases h
  · rename_i c next here
    split at h
    · rename_i allowed
      split at h
      · cases h
      · rename_i reply w served
        cases h
        refine ⟨⟨c, next, here, script run c, reply, w, allowed, served, rfl⟩,
          fun other different => ?_⟩
        exact Function.update_of_ne different _ _
    · cases h

theorem turn_serial {start : Config World Call Reply α} {run : RunId} {steps : Nat}
    {before after : Config World Call Reply α}
    (others : ∀ other, other ≠ run → Idle start before other)
    (h : play S permit script (List.replicate steps run) before = some after) :
    Relation.ReflTransGen (SerialStep S permit start) before after ∧
      ∀ other, other ≠ run → Idle start after other := by
  induction steps generalizing before with
  | zero =>
    cases h
    exact ⟨.refl, others⟩
  | succ steps ih =>
    obtain ⟨middle, first, rest⟩ := Option.bind_eq_some_iff.mp h
    obtain ⟨step, same⟩ := advance_stepOf first
    have still : ∀ other, other ≠ run → Idle start middle other := by
      intro other different
      simpa only [Idle, same other different] using others other different
    obtain ⟨reach, idle⟩ := ih still rest
    exact ⟨.head ⟨run, others, step⟩ reach, idle⟩

theorem turns_serial {start : Config World Call Reply α} {turns : List (RunId × Nat)}
    {before after : Config World Call Reply α} (idle : ∀ run, Idle start before run)
    (h : playTurns S permit script turns before = some after) :
    Relation.ReflTransGen (SerialStep S permit start) before after := by
  induction turns generalizing before with
  | nil =>
    cases h
    exact .refl
  | cons turn rest ih =>
    obtain ⟨middle, played, later⟩ := Option.bind_eq_some_iff.mp h
    split at later
    · rename_i ended
      obtain ⟨reach, others⟩ := turn_serial (fun other _ => idle other) played
      refine reach.trans (ih (fun other => ?_) later)
      by_cases same : other = turn.1
      · obtain ⟨value, isValue⟩ := Option.isSome_iff_exists.mp ended
        exact .inr ⟨value, by rw [same]; exact Prog.result?_eq_some.mp isValue⟩
      · exact others other same
    · cases later

theorem playTurns_serial {start after : Config World Call Reply α} {turns : List (RunId × Nat)}
    (h : playTurns S permit script turns start = some after) : SerialReach S permit start after :=
  turns_serial (fun _ => .inl rfl) h

end Turns

end Interleave
