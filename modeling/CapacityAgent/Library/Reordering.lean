/-
# First and last matches in any order

A loop over rows that keeps the first or the last match of a selector has the selected
value of some row, and by moving a row to the front or the back any of them. A move
does not concern the selectors that pass over the row, so several of them can be
chosen at once.
-/

import Mathlib.Data.List.Perm.Basic
import Mathlib.Tactic.Common

universe u

namespace Reordering

variable {α : Type*} {β γ : Type u}

/-- The last match of a selector. -/
def lastSome? (select : α → Option β) (rows : List α) : Option β :=
  (rows.filterMap select).getLast?

/-- The result of taking some match: none only if there is none. -/
def Selects (select : α → Option β) (rows : List α) : Option β → Prop
  | none => ∀ row ∈ rows, select row = none
  | some value => ∃ row ∈ rows, select row = some value

/-- All matches have one value. -/
def OneValue (select : α → Option β) (rows : List α) : Prop :=
  ∀ first ∈ rows, ∀ second ∈ rows, ∀ value ∈ select first, ∀ other ∈ select second, value = other

variable {select : α → Option β} {rows rows' : List α} {result : Option β}

theorem lastSome?_cons (row : α) (rows : List α) :
    lastSome? select (row :: rows) = (lastSome? select rows).or (select row) := by
  unfold lastSome?
  cases matched : select row with
  | none => rw [List.filterMap_cons_none matched, Option.or_none]
  | some value =>
    rw [List.filterMap_cons_some matched, List.getLast?_cons]
    cases (rows.filterMap select).getLast? <;> rfl

theorem selects_findSome? (rows : List α) : Selects select rows (rows.findSome? select) := by
  cases found : rows.findSome? select with
  | none => exact List.findSome?_eq_none_iff.mp found
  | some value => exact List.exists_of_findSome?_eq_some found

theorem selects_lastSome? (rows : List α) : Selects select rows (lastSome? select rows) := by
  unfold lastSome?
  cases found : (rows.filterMap select).getLast? with
  | none =>
    intro row member
    have empty := List.getLast?_eq_none_iff.mp found
    exact List.filterMap_eq_nil_iff.mp empty row member
  | some value => exact List.mem_filterMap.mp (List.mem_of_getLast? found)

theorem Selects.of_perm (selects : Selects select rows result) (same : rows.Perm rows') :
    Selects select rows' result := by
  cases result with
  | none => exact fun row member => selects row (same.mem_iff.mpr member)
  | some value =>
    obtain ⟨row, member, matched⟩ := selects
    exact ⟨row, same.mem_iff.mp member, matched⟩

/-- The result is settled exactly when all matches have one value. -/
theorem oneValue_iff :
    OneValue select rows ↔
      ∀ first second, Selects select rows first → Selects select rows second → first = second := by
  constructor
  · intro one first second
    cases first with
    | none =>
      cases second with
      | none => exact fun _ _ => rfl
      | some value =>
        rintro none ⟨row, member, matched⟩
        exact absurd (none row member) (by simp [matched])
    | some value =>
      cases second with
      | none =>
        rintro ⟨row, member, matched⟩ none
        exact absurd (none row member) (by simp [matched])
      | some other =>
        rintro ⟨row, member, matched⟩ ⟨row', member', matched'⟩
        exact congrArg some (one row member row' member' value matched other matched')
  · intro settled first member second member' value matched other matched'
    exact Option.some.inj (settled (some value) (some other) ⟨first, member, matched⟩
      ⟨second, member', matched'⟩)

/-- Two lists allow the same results exactly when they have the same values to select. -/
theorem forall_selects_iff :
    (∀ result, Selects select rows result ↔ Selects select rows' result) ↔
      ∀ value,
        (∃ row ∈ rows, select row = some value) ↔ ∃ row ∈ rows', select row = some value := by
  have none_iff : ∀ rows : List α, Selects select rows none ↔
      ∀ value, ¬ ∃ row ∈ rows, select row = some value := by
    intro rows
    refine ⟨fun all value ⟨row, member, matched⟩ => ?_, fun all row member => ?_⟩
    · rw [all row member] at matched
      exact absurd matched (by simp)
    · cases matched : select row with
      | none => rfl
      | some value => exact absurd ⟨row, member, matched⟩ (all value)
  constructor
  · exact fun same value => same (some value)
  · intro same result
    cases result with
    | none => simp only [none_iff, same]
    | some value => exact same value

theorem lastSome?_remove (keep : α → Option γ) {row : α} (passes : keep row = none)
    (before after : List α) :
    lastSome? keep (before ++ row :: after) = lastSome? keep (before ++ after) := by
  rw [lastSome?, lastSome?, List.filterMap_append, List.filterMap_append,
    List.filterMap_cons_none passes]

/-- The rows in an order with a chosen first match, otherwise as they were. -/
theorem exists_perm_findSome? (selects : Selects select rows result) :
    ∃ moved : List α, moved.Perm rows ∧ moved.findSome? select = result ∧
      ∀ {γ : Type u} (keep : α → Option γ), (∀ row, (select row).isSome → keep row = none) →
        lastSome? keep moved = lastSome? keep rows := by
  cases result with
  | none => exact ⟨rows, List.Perm.refl _, List.findSome?_eq_none_iff.mpr selects, fun _ _ => rfl⟩
  | some value =>
    obtain ⟨row, member, matched⟩ := selects
    obtain ⟨before, after, rfl⟩ := List.append_of_mem member
    refine ⟨row :: (before ++ after), List.perm_middle.symm, ?_, fun keep others => ?_⟩
    · exact (List.findSome?_cons_of_isSome (by simp [matched])).trans matched
    · have passes := others row (by simp [matched])
      rw [lastSome?_remove keep passes, lastSome?_cons, passes, Option.or_none]

/-- The rows in an order with a chosen last match, otherwise as they were. -/
theorem exists_perm_lastSome? (selects : Selects select rows result) :
    ∃ moved : List α, moved.Perm rows ∧ lastSome? select moved = result ∧
      ∀ {γ : Type u} (keep : α → Option γ), (∀ row, (select row).isSome → keep row = none) →
        lastSome? keep moved = lastSome? keep rows := by
  cases result with
  | none =>
    refine ⟨rows, List.Perm.refl _, ?_, fun _ _ => rfl⟩
    rw [lastSome?, List.filterMap_eq_nil_iff.mpr selects, List.getLast?_nil]
  | some value =>
    obtain ⟨row, member, matched⟩ := selects
    obtain ⟨before, after, rfl⟩ := List.append_of_mem member
    refine ⟨before ++ after ++ [row], ?_, ?_, fun keep others => ?_⟩
    · exact (List.perm_append_singleton row (before ++ after)).trans List.perm_middle.symm
    · rw [lastSome?, List.filterMap_append, List.filterMap_cons_some matched, List.filterMap_nil,
        List.getLast?_concat]
    · have passes := others row (by simp [matched])
      rw [lastSome?_remove keep passes, lastSome?_remove keep passes, List.append_nil]

end Reordering
