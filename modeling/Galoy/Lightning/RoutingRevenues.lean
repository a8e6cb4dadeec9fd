import Galoy.Ledger.Services
import Galoy.Payments.Volumes
import Galoy.Shared.DateString
import Galoy.Shared.GroupBy
import Mathlib.Algebra.BigOperators.Ring.List
import Mathlib.Data.List.Chain

set_option autoImplicit false

namespace Galoy.Routing

open Interleave

def msPerDay : Int := 86400000

def dayOf (time : Int) : Int := time / msPerDay

def utcMidnight (time : Int) : Int := dayOf time * msPerDay

structure Forward where
  createdAt : Nat
  feeMtokens : Nat
  deriving DecidableEq, Repr

structure Interval where
  after : Int
  before : Int
  deriving DecidableEq, Repr

def Interval.contains (interval : Interval) (forward : Forward) : Bool :=
  interval.after ≤ forward.createdAt ∧ (forward.createdAt : Int) < interval.before

inductive Page where
  | last (forwards : List Forward)
  | more (forwards : List Forward) (next : Page)

def Page.all : Page → List Forward
  | .last forwards => forwards
  | .more forwards next => forwards ++ next.all

-- A first page without forwards ends the search, whatever its token.
def Page.fetch : Page → List Forward
  | .last forwards => forwards
  | .more forwards next => if forwards = [] then forwards else forwards ++ next.all

structure Lnd where
  forwards : List Forward
  getForwards : Interval → Page
  exact_pages : ∀ interval, ((getForwards interval).all).Perm (forwards.filter interval.contains)
  empty_last : ∀ interval next, getForwards interval ≠ .more [] next

def feeMtokens (forwards : List Forward) : ℚ :=
  (forwards.map fun forward => (forward.feeMtokens : ℚ)).sum

def Forward.date (forward : Forward) : String := toDateString (dayOf forward.createdAt).toNat

def getRoutingFees (page : Page) : List (String × ℚ) :=
  let forwards := page.fetch
  let dateGroupedForwards := Grouping.groupBy Forward.date forwards
  dateGroupedForwards.map fun group => (group.1, feeMtokens group.2 / 1000)

/-- `intervals` has what the recording runs have asked for; the code does not read it. -/
structure World where
  routingFeeLastEntry : Option Nat := none
  ledger : Ledger
  intervals : List Interval := []

structure Faults where
  findOne : Option AppError := none
  activeLnd : Option AppError := none
  getForwards : Option AppError := none
  addLndRoutingRevenue : String → Option AppError := fun _ => none
  findOneAndUpdate : Option AppError := none

section Programs

variable (lnd : Lnd) (bank : BankWallets)

-- An error of the ledger is only logged.
def recordRevenues (faults : Faults) (now : Int) (ledger : Ledger) (revenues : List (String × ℚ)) :
    Ledger :=
  revenues.foldl (fun ledger revenue =>
    match faults.addLndRoutingRevenue revenue.1 with
    | some _ => ledger
    | none =>
      ledger.commit 0 (now / 1000).toNat
      (LedgerAdmin.addLndRoutingRevenue bank revenue.2 revenue.1)) ledger

def updateRoutingRevenues (faults : Faults) (now : Int) (w : World) :
    Except AppError Unit × World :=
  match faults.findOne with
  | some error => (.error error, w)
  | none =>
    let lastDate := utcMidnight (w.routingFeeLastEntry.getD 0 : Nat)
    let endDate := utcMidnight (now - msPerDay)
    if ((endDate - lastDate : Int) : ℚ) / msPerDay < 1 then (.ok (), w)
    else
      match faults.activeLnd, faults.getForwards with
      | some error, _ => (.error error, w)
      | none, some error => (.error error, w)
      | none, none =>
        let interval : Interval := ⟨lastDate, endDate⟩
        let revenues := getRoutingFees (lnd.getForwards interval)
        let recorded : World :=
          { w with
            ledger := recordRevenues bank faults now w.ledger revenues
            intervals := w.intervals ++ [interval] }
        match faults.findOneAndUpdate with
        | some error => (.error error, recorded)
        | none =>
          let endDay := toDateString (dayOf endDate + 1).toNat
          -- The text is cast to the date that the schema has.
          match parseDateString endDay with
          | none =>
            (.error { name := .UnknownRepositoryError, message := "Cast to date failed" }, recorded)
          | some day =>
            (.ok (), { recorded with routingFeeLastEntry := some (day * msPerDay : Int).toNat })

def runs (times : List Int) (w : World) : World :=
  times.foldl (fun w now => (updateRoutingRevenues lnd bank {} now w).2) w

end Programs

def isRevenue (leg : Leg) : Bool := leg.account = .lnd ∧ leg.metadata.type = .routingRevenue

def recorded (ledger : Ledger) : ℚ := outgoing isRevenue ledger.legs

section Fees

variable {lnd : Lnd} {bank : BankWallets}

theorem Lnd.fetch_perm (lnd : Lnd) (interval : Interval) :
    ((lnd.getForwards interval).fetch).Perm (lnd.forwards.filter interval.contains) := by
  refine List.Perm.trans ?_ (lnd.exact_pages interval)
  cases page : lnd.getForwards interval with
  | last forwards => exact List.Perm.refl _
  | more forwards next =>
    have nonempty : forwards ≠ [] := fun empty => lnd.empty_last interval next (empty ▸ page)
    simp [Page.fetch, Page.all, nonempty]

theorem feeMtokens_perm {forwards others : List Forward} (perm : forwards.Perm others) :
    feeMtokens forwards = feeMtokens others :=
  (perm.map _).sum_eq

theorem getRoutingFees_sum (page : Page) :
    ((getRoutingFees page).map (·.2)).sum = feeMtokens page.fetch / 1000 := by
  unfold getRoutingFees
  dsimp only
  rw [List.map_map]
  have grouped := Grouping.total_groupBy (fun forward : Forward => (forward.feeMtokens : ℚ))
    Forward.date page.fetch
  rw [feeMtokens, ← grouped, Grouping.total, div_eq_mul_inv, ← List.sum_map_mul_right]
  rfl

theorem recorded_revenue (ledger : Ledger) (clock : Nat) (amount : ℚ) (day : String) :
    recorded (ledger.commit 0 clock (LedgerAdmin.addLndRoutingRevenue bank amount day)) =
      recorded ledger + amount := by
  unfold recorded
  rw [Ledger.legs_commit, outgoing_append]
  simp [LedgerAdmin.addLndRoutingRevenue, isRevenue]

theorem recorded_revenues (now : Int) (ledger : Ledger) (revenues : List (String × ℚ)) :
    recorded (recordRevenues bank {} now ledger revenues) =
      recorded ledger + (revenues.map (·.2)).sum := by
  unfold recordRevenues
  induction revenues generalizing ledger with
  | nil => simp
  | cons revenue rest ih =>
    rw [List.foldl_cons, ih, recorded_revenue, List.map_cons, List.sum_cons, add_assoc]

end Fees

section Step

variable (lnd : Lnd) (bank : BankWallets) {now : Int} {w : World}

def World.lastDay (w : World) : Int := dayOf (w.routingFeeLastEntry.getD 0 : Nat)

theorem World.lastDay_nonneg (w : World) : 0 ≤ w.lastDay :=
  Int.ediv_nonneg (Int.natCast_nonneg _) (by decide)

theorem lastDay_empty (ledger : Ledger) : World.lastDay { ledger } = 0 := by
  simp [World.lastDay, dayOf]

def World.interval (w : World) (now : Int) : Interval :=
  ⟨w.lastDay * msPerDay, (dayOf now - 1) * msPerDay⟩

theorem dayOf_yesterday (now : Int) : dayOf (now - msPerDay) = dayOf now - 1 := by
  unfold dayOf msPerDay
  omega

theorem dayOf_midnight (day : Int) : dayOf (day * msPerDay) = day :=
  Int.mul_ediv_cancel day (by decide)

theorem too_early (days : Int) : ((days * msPerDay : Int) : ℚ) / msPerDay < 1 ↔ days < 1 := by
  have positive : (msPerDay : ℚ) ≠ 0 := by norm_num [msPerDay]
  rw [Int.cast_mul, mul_div_cancel_right₀ _ positive]
  exact_mod_cast Iff.rfl

theorem since_last (w : World) (now : Int) :
    utcMidnight (now - msPerDay) - utcMidnight (w.routingFeeLastEntry.getD 0 : Nat) =
      (dayOf now - 1 - w.lastDay) * msPerDay := by
  rw [utcMidnight, utcMidnight, dayOf_yesterday, ← sub_mul]
  rfl

theorem step_skips (early : dayOf now ≤ w.lastDay + 1) :
    (updateRoutingRevenues lnd bank {} now w).2 = w := by
  unfold updateRoutingRevenues
  dsimp only
  rw [since_last, if_pos ((too_early _).mpr (by omega))]

theorem asked_interval (w : World) (now : Int) :
    (⟨utcMidnight (w.routingFeeLastEntry.getD 0 : Nat), utcMidnight (now - msPerDay)⟩ : Interval) =
      w.interval now := by
  rw [utcMidnight, utcMidnight, dayOf_yesterday]
  rfl

theorem step_records (late : w.lastDay + 2 ≤ dayOf now) :
    (updateRoutingRevenues lnd bank {} now w).2 =
      { routingFeeLastEntry := some (dayOf now * msPerDay).toNat
        ledger := recordRevenues bank {} now w.ledger (getRoutingFees
          (lnd.getForwards (w.interval now)))
        intervals := w.intervals ++ [w.interval now] } := by
  have today : dayOf (utcMidnight (now - msPerDay)) + 1 = dayOf now := by
    rw [utcMidnight, dayOf_midnight, dayOf_yesterday]
    omega
  have sinceEpoch : ((dayOf now).toNat : Int) = dayOf now :=
    Int.toNat_of_nonneg (by have := w.lastDay_nonneg; omega)
  unfold updateRoutingRevenues
  dsimp only
  rw [since_last, if_neg (mt (too_early _).mp (by omega)), asked_interval, today,
    parseDateString_toDateString]
  dsimp only
  rw [sinceEpoch]

structure Records (faults : Faults) (now : Int) (w : World) : Prop where
  found : faults.findOne = none
  active : faults.activeLnd = none
  fetched : faults.getForwards = none
  late : w.lastDay + 2 ≤ dayOf now

theorem step_ledger {faults : Faults} (records : Records faults now w) :
    (updateRoutingRevenues lnd bank faults now w).2.ledger =
      recordRevenues bank faults now w.ledger
        (getRoutingFees (lnd.getForwards (w.interval now))) := by
  have late := records.late
  unfold updateRoutingRevenues
  simp only [records.found, records.active, records.fetched]
  rw [since_last, if_neg (mt (too_early _).mp (by omega)), asked_interval]
  cases faults.findOneAndUpdate with
  | some error => rfl
  | none =>
    dsimp only
    cases parseDateString (toDateString (dayOf (utcMidnight (now - msPerDay)) + 1).toNat) <;> rfl

theorem step_ledger_unchanged {faults : Faults} (stops : ¬ Records faults now w) :
    (updateRoutingRevenues lnd bank faults now w).2.ledger = w.ledger := by
  unfold updateRoutingRevenues
  cases found : faults.findOne with
  | some error => rfl
  | none =>
    dsimp only
    rw [since_last]
    split
    · rfl
    · rename_i late
      rw [too_early] at late
      cases active : faults.activeLnd with
      | some error => rfl
      | none =>
        cases fetched : faults.getForwards with
        | some error => rfl
        | none => exact absurd ⟨found, active, fetched, by omega⟩ stops

theorem step_lastDay (late : w.lastDay + 2 ≤ dayOf now) :
    (updateRoutingRevenues lnd bank {} now w).2.lastDay = dayOf now := by
  have positive : 0 ≤ dayOf now * msPerDay :=
    Int.mul_nonneg (by have := w.lastDay_nonneg; omega) (by decide)
  rw [step_records lnd bank late, World.lastDay, Option.getD_some, Int.toNat_of_nonneg positive,
    dayOf_midnight]

theorem step_intervals (late : w.lastDay + 2 ≤ dayOf now) :
    (updateRoutingRevenues lnd bank {} now w).2.intervals = w.intervals ++ [w.interval now] := by
  rw [step_records lnd bank late]

end Step

section Runs

variable (lnd : Lnd) (bank : BankWallets)

theorem runs_append (times more : List Int) (w : World) :
    runs lnd bank (times ++ more) w =
      runs lnd bank more (runs lnd bank times w) :=
  List.foldl_append

theorem runs_cons (now : Int) (times : List Int) (w : World) :
    runs lnd bank (now :: times) w =
      runs lnd bank times (updateRoutingRevenues lnd bank {} now w).2 := rfl

theorem runs_skip {times : List Int} {w : World}
    (early : ∀ now ∈ times, dayOf now ≤ w.lastDay + 1) :
    runs lnd bank times w = w := by
  induction times with
  | nil => rfl
  | cons now rest ih =>
    rw [runs_cons, step_skips lnd bank (early now (by simp))]
    exact ih fun later member => early later (by simp [member])

theorem runs_intervals (times : List Int) (w : World) :
    w.intervals <+: (runs lnd bank times w).intervals := by
  induction times generalizing w with
  | nil => exact List.prefix_rfl
  | cons now rest ih =>
    rw [runs_cons]
    have grows : w.intervals <+: (updateRoutingRevenues lnd bank {} now w).2.intervals := by
      by_cases early : dayOf now ≤ w.lastDay + 1
      · simp [step_skips lnd bank early]
      · have late : w.lastDay + 2 ≤ dayOf now := by omega
        simp [step_intervals lnd bank late]
    exact grows.trans (ih _)

theorem runs_more {times : List Int} {w : World} (late : ∃ now ∈ times, w.lastDay + 2 ≤ dayOf now) :
    ∃ now, w.intervals ++ [w.interval now] <+: (runs lnd bank times w).intervals := by
  induction times with
  | nil =>
    obtain ⟨now, member, _⟩ := late
    cases member
  | cons first rest ih =>
    rw [runs_cons]
    by_cases early : dayOf first ≤ w.lastDay + 1
    · rw [step_skips lnd bank early]
      obtain ⟨now, member, isLate⟩ := late
      rcases List.mem_cons.mp member with rfl | inRest
      · omega
      · exact ih ⟨now, inRest, isLate⟩
    · have grown := runs_intervals lnd bank rest (updateRoutingRevenues lnd bank {} first w).2
      rw [step_intervals lnd bank (by omega)] at grown
      exact ⟨first, grown⟩

theorem first_late (times : List Int) :
    (∀ now ∈ times, dayOf now ≤ 1) ∨
      ∃ early now later, times = early ++ now :: later ∧ (∀ skipped ∈ early, dayOf skipped ≤ 1) ∧
        2 ≤ dayOf now := by
  cases found : times.find? fun now => 2 ≤ dayOf now with
  | none =>
    refine .inl fun now member => ?_
    have notLate := List.find?_eq_none.mp found now member
    simp only [decide_eq_true_eq] at notLate
    omega
  | some now =>
    obtain ⟨late, early, later, shape, skipped⟩ := List.find?_eq_some_iff_append.mp found
    refine .inr ⟨early, now, later, shape, fun time member => ?_, of_decide_eq_true late⟩
    have notLate := skipped time member
    simp only [Bool.not_eq_true', decide_eq_false_iff_not] at notLate
    omega

end Runs

structure RevenuesComplete (lnd : Lnd) (start after : World) : Prop where
  contiguous : after.intervals.IsChain fun earlier later => earlier.before = later.after
  disjoint : after.intervals.Pairwise fun earlier later => earlier.before ≤ later.after
  once : ∀ last, after.intervals.getLast? = some last → ∀ forward ∈ lnd.forwards,
    (forward.createdAt : Int) < last.before → after.intervals.countP (·.contains forward) = 1
  total : ∀ last, after.intervals.getLast? = some last →
    recorded after.ledger = recorded start.ledger +
      feeMtokens (lnd.forwards.filter fun forward => (forward.createdAt : Int) < last.before) / 1000

section Complete

variable {lnd : Lnd} {bank : BankWallets}

theorem complete_none {w : World} (none : w.intervals = []) : RevenuesComplete lnd w w where
  contiguous := by simp [none]
  disjoint := by simp [none]
  once := fun last isLast => by simp [none] at isLast
  total := fun last isLast => by simp [none] at isLast

theorem contains_first {ledger : Ledger} (now : Int) (forward : Forward) :
    (World.interval { ledger } now).contains forward =
      decide ((forward.createdAt : Int) < (World.interval { ledger } now).before) := by
  have sinceEpoch : (World.interval { ledger } now).after ≤ forward.createdAt := by
    simp [World.interval, World.lastDay, dayOf]
  simp [Interval.contains, sinceEpoch]

theorem complete_one {ledger : Ledger} {now : Int} (late : 2 ≤ dayOf now) :
    RevenuesComplete lnd { ledger } (updateRoutingRevenues lnd bank {} now { ledger }).2 := by
  have records := step_records (w := { ledger }) lnd bank (by rwa [lastDay_empty])
  rw [records]
  constructor
  case contiguous => simp
  case disjoint => simp
  case once =>
    intro last isLast forward member created
    obtain rfl : World.interval { ledger } now = last := by simpa using isLast
    simp [contains_first, created]
  case total =>
    intro last isLast
    obtain rfl : World.interval { ledger } now = last := by simpa using isLast
    rw [recorded_revenues, getRoutingFees_sum, feeMtokens_perm (lnd.fetch_perm _)]
    simp only [funext (contains_first now)]

theorem second_not_contiguous {w : World} {now next : Int} {later : List Int}
    (late : w.lastDay + 2 ≤ dayOf now) (isLater : next ∈ later)
    (skips : dayOf now + 2 ≤ dayOf next) :
    ¬ (runs lnd bank (now :: later) w).intervals.IsChain fun first second =>
      first.before = second.after := by
  intro contiguous
  have stored := step_lastDay lnd bank late
  obtain ⟨last, rest, grown⟩ := runs_more lnd bank ⟨next, isLater, stored ▸ skips⟩
  rw [runs_cons, ← grown, step_intervals lnd bank late, List.append_assoc] at contiguous
  have touches : (dayOf now - 1) * msPerDay = dayOf now * msPerDay := by
    have meets := (List.isChain_append.mp contiguous).2.2 (w.interval now) (by simp) _ rfl
    simpa [World.interval, stored] using meets
  have same := Int.eq_of_mul_eq_mul_right (by decide : msPerDay ≠ 0) touches
  omega

end Complete

/-- A second run that records leaves out the day before it was asked for. -/
theorem routing_revenues_complete_iff (lnd : Lnd) (bank : BankWallets)
    (ledger : Ledger) (times : List Int) (increasing : times.Pairwise (· < ·)) :
    RevenuesComplete lnd { ledger } (runs lnd bank times { ledger }) ↔
      ∀ first ∈ times, ∀ second ∈ times, 2 ≤ dayOf first → dayOf second ≤ dayOf first + 1 := by
  rcases first_late times with never | ⟨early, now, later, rfl, skipped, late⟩
  · rw [runs_skip lnd bank (by rwa [lastDay_empty])]
    refine iff_of_true (complete_none rfl) fun first isFirst second _ isLate => ?_
    have notLate := never first isFirst
    omega
  · have unchanged : runs lnd bank early { ledger } = { ledger } :=
      runs_skip lnd bank (by rwa [lastDay_empty])
    have records : World.lastDay { ledger } + 2 ≤ dayOf now := by rwa [lastDay_empty]
    rw [runs_append, unchanged]
    have after_now : ∀ time ∈ later, dayOf now ≤ dayOf time := by
      intro time member
      have before : now < time := by
        have sorted := (List.pairwise_append.mp increasing).2.1
        exact List.rel_of_pairwise_cons sorted member
      exact Int.ediv_le_ediv (by decide) before.le
    constructor
    · intro complete first isFirst second isSecond isLate
      by_contra apart
      have first_after : dayOf now ≤ dayOf first := by
        rcases List.mem_append.mp isFirst with inEarly | inRest
        · have := skipped first inEarly
          omega
        · rcases List.mem_cons.mp inRest with rfl | inLater
          · exact le_rfl
          · exact after_now first inLater
      have second_later : second ∈ later := by
        rcases List.mem_append.mp isSecond with inEarly | inRest
        · have := skipped second inEarly
          omega
        · rcases List.mem_cons.mp inRest with rfl | inLater
          · omega
          · exact inLater
      exact second_not_contiguous records second_later (by omega) complete.contiguous
    · intro within
      have rest_skipped : ∀ time ∈ later,
          dayOf time ≤ (updateRoutingRevenues lnd bank {} now { ledger }).2.lastDay + 1 := by
        intro time member
        rw [step_lastDay lnd bank records]
        exact within now (by simp) time (by simp [member]) late
      rw [runs_cons, runs_skip lnd bank rest_skipped]
      exact complete_one late

def onePage (forwards : List Forward) : Lnd where
  forwards
  getForwards interval := .last (forwards.filter interval.contains)
  exact_pages _ := List.Perm.refl _
  empty_last _ _ := nofun

def forwardOfDayTwo : Forward := ⟨2 * 86400000 + 1, 7000⟩

theorem recorded_then_skipped :
    ([4 * msPerDay, 5 * msPerDay].Pairwise (· < ·)) ∧
      RevenuesComplete (onePage [forwardOfDayTwo]) { ledger := {} }
        (runs (onePage [forwardOfDayTwo]) exampleBank [4 * msPerDay, 5 * msPerDay]
          { ledger := {} }) :=
  ⟨by decide, (routing_revenues_complete_iff _ _ _ _ (by decide)).mpr (by decide)⟩

theorem second_run_leaves_out_a_day :
    (runs (onePage [forwardOfDayTwo]) exampleBank [3 * msPerDay, 5 * msPerDay]
      { ledger := {} }).intervals =
        [⟨0, 2 * msPerDay⟩, ⟨3 * msPerDay, 4 * msPerDay⟩] ∧
      recorded (runs (onePage [forwardOfDayTwo]) exampleBank [3 * msPerDay, 5 * msPerDay]
        { ledger := {} }).ledger = 0 ∧
      feeMtokens [forwardOfDayTwo] / 1000 = 7 ∧
      ¬ RevenuesComplete (onePage [forwardOfDayTwo]) { ledger := {} }
        (runs (onePage [forwardOfDayTwo]) exampleBank [3 * msPerDay, 5 * msPerDay]
          { ledger := {} }) := by
  refine ⟨by decide +kernel, by decide +kernel, by decide +kernel, fun complete => ?_⟩
  exact absurd complete.contiguous (by decide +kernel)

end Galoy.Routing
