/-
# Running maxima

The greatest stamp among the elements of a list that have one. It is the join of
the stamps, so it does not depend on their order and only grows as the list does.
-/

import Mathlib.Data.List.Perm.Basic
import Mathlib.Order.MinMax
import Mathlib.Tactic.Common

namespace RunningMax

variable {α τ : Type*} [LinearOrder τ] (stamp : α → Option τ)

/-- The join of two optional stamps; an absent one is below every other. -/
def join : Option τ → Option τ → Option τ := Option.merge max

@[simp] theorem join_none_left (t : Option τ) : join none t = t := by cases t <;> rfl

@[simp] theorem join_none_right (t : Option τ) : join t none = t := by cases t <;> rfl

@[simp] theorem join_some_some (s t : τ) : join (some s) (some t) = some (max s t) := rfl

/-- The join is one of the two. -/
theorem eq_or_eq_of_join {s t : Option τ} {u : τ} (joined : join s t = some u) :
    s = some u ∨ t = some u := by
  cases s with
  | none => exact .inr (by rwa [join_none_left] at joined)
  | some s =>
    cases t with
    | none => exact .inl (by rwa [join_none_right] at joined)
    | some t =>
      rw [join_some_some] at joined
      rcases max_choice s t with first | second
      · exact .inl (by rw [← joined, first])
      · exact .inr (by rw [← joined, second])

/-- The join is at least its first part. -/
theorem exists_join_some (s : τ) (t : Option τ) : ∃ u, join (some s) t = some u ∧ s ≤ u := by
  cases t with
  | none => exact ⟨s, rfl, le_rfl⟩
  | some t => exact ⟨max s t, rfl, le_max_left s t⟩

/-- The greatest stamp, absent when no element has one. -/
def runningMax (elements : List α) : Option τ := (elements.filterMap stamp).max?

theorem max?_append (first second : List τ) :
    (first ++ second).max? = join first.max? second.max? := by
  induction first with
  | nil => simp
  | cons t rest ih =>
    rw [List.cons_append, List.max?_cons, List.max?_cons, ih]
    -- an absent maximum is neutral, present ones associate
    cases rest.max? <;> cases second.max? <;> simp [max_assoc]

variable {stamp} {elements : List α}

theorem runningMax_append (first second : List α) :
    runningMax stamp (first ++ second) =
      join (runningMax stamp first) (runningMax stamp second) := by
  rw [runningMax, List.filterMap_append, max?_append]
  rfl

@[simp] theorem runningMax_singleton (x : α) : runningMax stamp [x] = stamp x := by
  cases found : stamp x <;> simp [runningMax, found]

theorem runningMax_concat (x : α) :
    runningMax stamp (elements ++ [x]) = join (runningMax stamp elements) (stamp x) := by
  rw [runningMax_append, runningMax_singleton]

theorem runningMax_eq_some_iff {t : τ} :
    runningMax stamp elements = some t ↔
      (∃ x ∈ elements, stamp x = some t) ∧
        ∀ x ∈ elements, ∀ s, stamp x = some s → s ≤ t := by
  rw [runningMax, List.max?_eq_some_iff, List.mem_filterMap]
  refine and_congr_right' ⟨fun bound x member s has => ?_, fun bound s here => ?_⟩
  · exact bound s (List.mem_filterMap.mpr ⟨x, member, has⟩)
  · obtain ⟨x, member, has⟩ := List.mem_filterMap.mp here
    exact bound x member s has

/-- The order of the elements does not matter. -/
theorem runningMax_perm {other : List α} (permuted : elements.Perm other) :
    runningMax stamp elements = runningMax stamp other := by
  refine Option.ext fun t => ?_
  simp only [runningMax_eq_some_iff, permuted.mem_iff]

/-- More elements never lower the maximum. -/
theorem runningMax_mono {t : τ} (reached : runningMax stamp elements = some t)
    (more : List α) : ∃ t', runningMax stamp (elements ++ more) = some t' ∧ t ≤ t' := by
  rw [runningMax_append, reached]
  exact exists_join_some t _

end RunningMax
