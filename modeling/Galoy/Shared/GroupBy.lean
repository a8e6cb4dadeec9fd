import Mathlib.Algebra.BigOperators.Group.List.Basic

set_option autoImplicit false

namespace Grouping

variable {α κ β : Type}

def insert [DecidableEq κ] (key : α → κ) (item : α) : List (κ × List α) → List (κ × List α)
  | [] => [(key item, [item])]
  | group :: rest =>
    if group.1 = key item then (group.1, group.2 ++ [item]) :: rest
      else group :: insert key item rest

def groupBy [DecidableEq κ] (key : α → κ) (items : List α) : List (κ × List α) :=
  items.foldl (fun groups item => insert key item groups) []

variable [AddCommMonoid β]

def total (value : α → β) (groups : List (κ × List α)) : β :=
  (groups.map fun group => (group.2.map value).sum).sum

theorem total_cons (value : α → β) (group : κ × List α) (rest : List (κ × List α)) :
    total value (group :: rest) = (group.2.map value).sum + total value rest := rfl

variable [DecidableEq κ] (value : α → β) (key : α → κ)

theorem total_insert (item : α) (groups : List (κ × List α)) :
    total value (insert key item groups) = total value groups + value item := by
  induction groups with
  | nil => simp [insert, total]
  | cons group rest ih =>
    unfold insert
    split
    · simp only [total_cons, List.map_append, List.sum_append, List.map_cons, List.map_nil,
        List.sum_cons, List.sum_nil, add_zero]
      rw [add_assoc, add_comm (value item), ← add_assoc]
    · rw [total_cons, total_cons, ih, add_assoc]

theorem total_groupBy (items : List α) :
    total value (groupBy key items) = (items.map value).sum := by
  suffices later : ∀ groups : List (κ × List α),
      total value (items.foldl (fun groups item => insert key item groups) groups) =
        total value groups + (items.map value).sum by
    have all := later []
    rw [groupBy, all]
    exact zero_add _
  induction items with
  | nil => simp
  | cons item rest ih =>
    intro groups
    rw [List.foldl_cons, ih, total_insert, List.map_cons, List.sum_cons, add_assoc]

end Grouping
