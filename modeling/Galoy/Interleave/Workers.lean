import Galoy.Interleave.Pool
import Mathlib.Tactic.SplitIfs

set_option autoImplicit false

namespace Interleave

inductive Place where
  | waiting
  | item (k : Nat)
  | ended
  deriving DecidableEq, Repr

structure Crew (World Call : Type) (Reply : Call → Type) where
  config : Config World Call Reply Unit
  yielded : Nat := 0
  failed : Bool := false
  place : Nat → Place := fun _ => .waiting

/-- The items are the runs from `first` on, in the order in which the iterator yields them. -/
structure Crowd where
  first : RunId
  items : Nat
  workers : Nat

inductive Move where
  | beside (run : RunId)
  | work (worker : Nat)
  | next (worker : Nat) (fails : Bool)

variable {World Call : Type} {Reply : Call → Type} {S : Service World Call Reply} {crowd : Crowd}
  {before after crew : Crew World Call Reply} {script : Script S} {m : Move}

def taskPool {Item : Type} (first : RunId) (others : RunId → Prog Call Reply Unit)
    (task : Item → Prog Call Reply Unit) (items : List Item) (run : RunId) : Prog Call Reply Unit :=
  if run < first then others run
  else
    match items[run - first]? with
    | none => .pure ()
    | some item => task item

def Crew.asks (crew : Crew World Call Reply) (crowd : Crowd) (worker : Nat) : Bool :=
  match crew.place worker with
  | .waiting => true
  | .item k => (crew.config.pool (crowd.first + k)).result?.isSome
  | .ended => false

-- An iterator that throws rejects the worker that waits for it, and has nothing more for the
-- others.
def Crew.next (crew : Crew World Call Reply) (crowd : Crowd) (worker : Nat) (fails : Bool) :
    Crew World Call Reply :=
  if fails then { crew with failed := true, place := Function.update crew.place worker .ended }
  else if crew.failed = false ∧ crew.yielded < crowd.items then
    { crew with yielded := crew.yielded + 1, place :=
      Function.update crew.place worker (.item crew.yielded) }
  else { crew with place := Function.update crew.place worker .ended }

def Crew.goOn (crew : Crew World Call Reply) (S : Service World Call Reply) (script : Script S)
    (run : RunId) : Option (Crew World Call Reply) :=
  (advance S (anyStep S) script run crew.config).map fun config => { crew with config }

def Crew.move (crew : Crew World Call Reply) (S : Service World Call Reply) (script : Script S)
    (crowd : Crowd) :
    Move → Option (Crew World Call Reply)
  | .beside run => if run < crowd.first then crew.goOn S script run else none
  | .work worker =>
    match crew.place worker with
    | .item k => if worker < crowd.workers then crew.goOn S script (crowd.first + k) else none
    | _ => none
  | .next worker fails =>
    if worker < crowd.workers ∧ crew.asks crowd worker = true
      then some (crew.next crowd worker fails) else none

def CrewReach (S : Service World Call Reply) (crowd : Crowd) : Crew World Call Reply →
    Crew World Call Reply → Prop :=
  Relation.ReflTransGen fun before after => ∃ script m, before.move S script crowd m = some after

def crewPlay (S : Service World Call Reply) (script : Script S) (crowd : Crowd) :
    List Move → Crew World Call Reply → Option (Crew World Call Reply)
  | [], crew => some crew
  | m :: rest, crew => (crew.move S script crowd m).bind (crewPlay S script crowd rest)

theorem crewPlay_reach {moves : List Move}
    (played : crewPlay S script crowd moves before = some after) :
    CrewReach S crowd before after := by
  induction moves generalizing before with
  | nil =>
    cases played
    exact Relation.ReflTransGen.refl
  | cons m rest ih =>
    obtain ⟨middle, moved, on⟩ := Option.bind_eq_some_iff.mp played
    exact Relation.ReflTransGen.head ⟨script, m, moved⟩ (ih on)

theorem advance_pool {run : RunId} {config later : Config World Call Reply Unit}
    (advanced : advance S (anyStep S) script run config = some later) :
    ∃ p, later.pool = Function.update config.pool run p := by
  unfold advance at advanced
  split at advanced
  · cases advanced
  · split at advanced
    · split at advanced <;> cases advanced
      exact ⟨_, rfl⟩
    · cases advanced

theorem Crew.move_inversion (moved : before.move S script crowd m = some after) :
    (∃ run config, (run < crowd.first ∨ ∃ k, run = crowd.first + k ∧ ∃ worker < crowd.workers,
        before.place worker = .item k) ∧ advance S (anyStep S) script run before.config =
          some config ∧
        after = { before with config }) ∨
      ∃ worker < crowd.workers, ∃ fails, before.asks crowd worker = true ∧
        after = before.next crowd worker fails := by
  cases m with
  | beside run =>
    simp only [Crew.move] at moved
    split_ifs at moved with lower
    obtain ⟨config, advanced, rfl⟩ := Option.map_eq_some_iff.mp moved
    exact .inl ⟨run, config, .inl lower, advanced, rfl⟩
  | work worker =>
    simp only [Crew.move] at moved
    split at moved
    · rename_i k at_
      split_ifs at moved with member
      obtain ⟨config, advanced, rfl⟩ := Option.map_eq_some_iff.mp moved
      exact .inl ⟨_, config, .inr ⟨k, rfl, worker, member, at_⟩, advanced, rfl⟩
    · cases moved
  | next worker fails =>
    simp only [Crew.move] at moved
    split_ifs at moved with asks
    cases moved
    exact .inr ⟨worker, asks.1, fails, asks.2, rfl⟩

theorem Crew.next_config (worker : Nat) (fails : Bool) : (crew.next crowd worker fails).config =
    crew.config := by
  unfold Crew.next
  split
  · rfl
  · split <;> rfl

theorem CrewReach.config (reach : CrewReach S crowd before after) :
    Reach S (anyStep S) before.config after.config := by
  induction reach with
  | refl => exact Relation.ReflTransGen.refl
  | tail _ step ih =>
    obtain ⟨script, m, moved⟩ := step
    rcases Crew.move_inversion moved with ⟨run, config, -, advanced, rfl⟩ | ⟨worker, -,
      fails, -, rfl⟩
    · exact ih.tail (advance_step S _ script run _ config advanced)
    · rwa [Crew.next_config]

structure Crew.Sound (crew : Crew World Call Reply) (crowd : Crowd) : Prop where
  within : crew.yielded ≤ crowd.items
  done : ∀ k < crew.yielded, (∀ worker < crowd.workers, crew.place worker ≠ .item k) →
    crew.config.pool (crowd.first + k) = .pure ()
  stopped : ∀ worker < crowd.workers, crew.place worker = .ended →
    crew.failed = true ∨ crew.yielded = crowd.items

theorem Crew.Sound.next {worker : Nat} (good : crew.Sound crowd) (member : worker < crowd.workers)
    (asks : crew.asks crowd worker = true) (fails : Bool) :
    (crew.next crowd worker fails).Sound crowd := by
  have left {place : Place} (k : Nat) (gone : k < crew.yielded) (nobody : ∀ other < crowd.workers,
      Function.update crew.place worker place other ≠ .item k) :
        crew.config.pool (crowd.first + k) = .pure () := by
    by_cases here : crew.place worker = .item k
    · simp only [Crew.asks, here] at asks
      obtain ⟨_, ended⟩ := Option.isSome_iff_exists.mp asks
      exact Prog.result?_eq_some.mp ended
    · refine good.done k gone fun other inside at_ => ?_
      have different : other ≠ worker := fun same => here (same ▸ at_)
      exact nobody other inside ((Function.update_of_ne different _ _).trans at_)
  unfold Crew.next
  split_ifs with failing more
  · exact ⟨good.within, left, fun _ _ _ => .inl rfl⟩
  · refine ⟨more.2, fun k gone nobody => ?_, fun other inside isEnded => ?_⟩
    · refine left k (Nat.lt_of_le_of_ne (Nat.le_of_lt_succ gone) fun same => ?_) nobody
      exact nobody worker member (by rw [same]; exact Function.update_self _ _ _)
    · have different : other ≠ worker := by
        rintro rfl
        cases (Function.update_self other _ crew.place).symm.trans isEnded
      rcases good.stopped other inside ((Function.update_of_ne different _ _).symm.trans isEnded)
        with failed | all
      · cases more.1.symm.trans failed
      · exact absurd all (Nat.ne_of_lt more.2)
  · refine ⟨good.within, left, fun _ _ _ => ?_⟩
    by_cases failed : crew.failed = true
    · exact .inl failed
    · have all : ¬crew.yielded < crowd.items := fun fewer => more ⟨Bool.eq_false_iff.mpr failed, fewer⟩
      exact .inr (Nat.le_antisymm good.within (Nat.not_lt.mp all))

theorem Crew.Sound.move (good : before.Sound crowd)
    (moved : before.move S script crowd m = some after) :
    after.Sound crowd := by
  rcases Crew.move_inversion moved with ⟨run, config, whose, advanced, rfl⟩ | ⟨worker, member,
    fails, asks, rfl⟩
  · obtain ⟨p, pool⟩ := advance_pool advanced
    refine ⟨good.within, fun k gone nobody => ?_, good.stopped⟩
    have apart : crowd.first + k ≠ run := by
      rintro rfl
      rcases whose with lower | ⟨j, same, worker, member, at_⟩
      · exact absurd lower (Nat.not_lt.mpr (Nat.le_add_right _ _))
      · exact nobody worker member (Nat.add_left_cancel same ▸ at_)
    rw [pool, Function.update_of_ne apart]
    exact good.done k gone nobody
  · exact good.next member asks fails

theorem CrewReach.complete (reach : CrewReach S crowd before after) (fresh : before.yielded = 0)
    (waiting : ∀ worker, before.place worker = .waiting) (some_ : 0 < crowd.workers)
    (ended : ∀ worker < crowd.workers, after.place worker = .ended)
    (whole : after.failed = false) (k : Nat) (inside : k < crowd.items) :
    after.config.pool (crowd.first + k) = .pure () := by
  have start : before.Sound crowd := by
    refine ⟨fresh ▸ Nat.zero_le _, fun k gone _ => ?_, fun worker _ isEnded => ?_⟩
    · exact absurd gone (by simp [fresh])
    · cases (waiting worker).symm.trans isEnded
  have last : after.Sound crowd := by
    clear ended whole
    induction reach with
    | refl => exact start
    | tail _ step ih =>
      obtain ⟨script, m, moved⟩ := step
      exact ih.move moved
  rcases last.stopped 0 some_ (ended 0 some_) with failed | all
  · cases whole.symm.trans failed
  · refine last.done k (all ▸ inside) fun worker member at_ => ?_
    cases (ended worker member).symm.trans at_

end Interleave
