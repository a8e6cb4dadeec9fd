import Mathlib.Algebra.BigOperators.Group.List.Basic
import Mathlib.Data.List.Nodup
import Mathlib.Tactic.Abel

set_option autoImplicit false

namespace Keyed

variable {κ β γ : Type} [DecidableEq κ]

def setEntry (key : κ) (value : β) : List (κ × β) → List (κ × β)
  | [] => [(key, value)]
  | entry :: rest =>
    if entry.1 = key then (key, value) :: rest else entry :: setEntry key value rest

theorem mem_setEntry_keys (key : κ) (value : β) (entries : List (κ × β)) (other : κ) :
    other ∈ (setEntry key value entries).map Prod.fst ↔ other = key ∨
      other ∈ entries.map Prod.fst := by
  induction entries with
  | nil => simp [setEntry]
  | cons entry rest ih =>
    by_cases same : entry.1 = key
    · simp only [setEntry, same, if_true, List.map_cons, List.mem_cons]
      tauto
    · simp only [setEntry, same, if_false, List.map_cons, List.mem_cons, ih]
      tauto

theorem setEntry_distinct (key : κ) (value : β) {entries : List (κ × β)}
    (distinct : (entries.map Prod.fst).Nodup) :
    ((setEntry key value entries).map Prod.fst).Nodup := by
  induction entries with
  | nil => simp [setEntry]
  | cons entry rest ih =>
    obtain ⟨fresh, distinct⟩ := List.nodup_cons.mp distinct
    by_cases same : entry.1 = key
    · simp only [setEntry, same, if_true, List.map_cons, List.nodup_cons]
      exact ⟨same ▸ fresh, distinct⟩
    · simp only [setEntry, same, if_false, List.map_cons, List.nodup_cons, mem_setEntry_keys, not_or]
      exact ⟨⟨id, fresh⟩, ih distinct⟩

theorem lookup_entry (entry : κ × β) (rest : List (κ × β)) (key : κ) :
    (entry :: rest).lookup key = if key = entry.1 then some entry.2 else rest.lookup key := by
  rcases entry with ⟨first, value⟩
  by_cases same : key = first
  · simp [same]
  · have unequal : (key == first) = false := beq_false_of_ne same
    simp [List.lookup_cons, same, unequal]

structure Record (κ β : Type) where
  entries : List (κ × β)
  distinct : (entries.map Prod.fst).Nodup
  deriving DecidableEq, Repr

namespace Record

def empty : Record κ β := ⟨[], List.nodup_nil⟩

def get? (record : Record κ β) (key : κ) : Option β := record.entries.lookup key

def set (record : Record κ β) (key : κ) (value : β) : Record κ β :=
  ⟨setEntry key value record.entries, setEntry_distinct key value record.distinct⟩

@[simp] theorem get?_empty (key : κ) : (empty : Record κ β).get? key = none := rfl

@[simp] theorem get?_set (record : Record κ β) (key other : κ) (value : β) :
    (record.set key value).get? other = if other = key then some value else record.get? other := by
  unfold get? set
  dsimp only
  induction record.entries with
  | nil => simp [setEntry, lookup_entry]
  | cons entry rest ih =>
    by_cases found : entry.1 = key
    · by_cases same : other = key <;> simp [setEntry, found, lookup_entry, same]
    · by_cases here : other = entry.1
      · simp [setEntry, found, lookup_entry, here]
      · simpa [setEntry, found, lookup_entry, here] using ih

theorem get?_eq_some (record : Record κ β) (key : κ) (value : β) :
    record.get? key = some value ↔ (key, value) ∈ record.entries := by
  obtain ⟨entries, distinct⟩ := record
  unfold get?
  dsimp only
  induction entries with
  | nil => simp
  | cons entry rest ih =>
    obtain ⟨fresh, distinct⟩ := List.nodup_cons.mp distinct
    by_cases here : key = entry.1
    · have absent : (key, value) ∉ rest := by
        intro member
        apply fresh
        rw [← here]
        exact List.mem_map_of_mem member
      simp only [lookup_entry, here, if_true, Option.some.injEq, List.mem_cons,
        Prod.ext_iff, true_and]
      rw [here] at absent
      simp [absent, eq_comm]
    · simp [lookup_entry, here, Prod.ext_iff, ih distinct]

theorem filter_key (record : Record κ β) {key : κ} {value : β}
    (held : record.get? key = some value) :
    record.entries.filter (fun entry => entry.1 = key) = [(key, value)] := by
  obtain ⟨entries, distinct⟩ := record
  unfold get? at held
  dsimp only at held ⊢
  induction entries with
  | nil => cases held
  | cons entry rest ih =>
    obtain ⟨fresh, distinct⟩ := List.nodup_cons.mp distinct
    rw [lookup_entry] at held
    by_cases here : key = entry.1
    · have others : rest.filter (fun entry => entry.1 = key) = [] := by
        simp only [List.filter_eq_nil_iff, decide_eq_true_eq]
        intro other member same
        exact fresh (here ▸ same ▸ List.mem_map_of_mem member)
      rw [if_pos here, Option.some.injEq] at held
      rw [List.filter_cons_of_pos (by simp [here]), others, here, ← held]
    · rw [if_neg here] at held
      rw [List.filter_cons_of_neg (by simpa using Ne.symm here)]
      exact ih distinct held

section Total

variable [AddCommGroup γ] (measure : β → γ) (wanted : κ → Bool)

def total (record : Record κ β) : γ :=
  ((record.entries.filter fun entry => wanted entry.1).map fun entry => measure entry.2).sum

omit [DecidableEq κ] in
@[simp] theorem total_empty : total measure wanted (empty : Record κ β) = 0 := rfl

theorem total_set (record : Record κ β) (key : κ) (value : β) :
    total measure wanted (record.set key value) =
      total measure wanted record +
        if wanted key then measure value - ((record.get? key).map measure).getD 0 else 0 := by
  unfold total get? set
  dsimp only
  induction record.entries with
  | nil => by_cases isWanted : wanted key <;> simp [setEntry, isWanted]
  | cons entry rest ih =>
    by_cases found : entry.1 = key
    · by_cases isWanted : wanted key
      · simp [setEntry, found, lookup_entry, isWanted]
        abel
      · simp [setEntry, found, isWanted]
    · have other : key ≠ entry.1 := Ne.symm found
      by_cases isWanted : wanted entry.1
      · simp only [setEntry, found, if_false, List.filter_cons, isWanted, if_true, List.map_cons,
          List.sum_cons, ih, lookup_entry, other]
        abel
      · simpa [setEntry, found, isWanted, lookup_entry, other] using ih

end Total

end Record

end Keyed
