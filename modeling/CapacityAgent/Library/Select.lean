/-
# Answers of a SELECT

A `SELECT ... ORDER BY ... LIMIT ...` takes the rows that match and leaves their order
open where the keys are equal. Its answers are therefore a relation: it does not tell
apart two states of a table that hold the same matching rows.
-/

import Mathlib.Data.List.Sort
import Mathlib.Data.List.Perm.Basic

namespace Select

variable {α κ : Type*} [LinearOrder κ] (key : α → κ) (limit : Option ℕ)

/-- The first rows, all of them without a limit. -/
def limited (rows : List α) : List α := limit.elim rows fun n => rows.take n

/-- An answer from the rows that match. -/
def Answers (rows answer : List α) : Prop :=
  ∃ sorted : List α, sorted.Perm rows ∧
    sorted.Pairwise (fun first second => key first ≤ key second) ∧ answer = limited limit sorted

/-- The answer that keeps the order of storage where the keys are equal. -/
def select (rows : List α) : List α :=
  limited limit (rows.insertionSort fun first second => key first ≤ key second)

variable {key limit}

theorem answers_select (rows : List α) : Answers key limit rows (select key limit rows) := by
  have total : Std.Total fun first second : α => key first ≤ key second :=
    ⟨fun first second => le_total (key first) (key second)⟩
  have trans : IsTrans α fun first second => key first ≤ key second :=
    ⟨fun _ _ _ => le_trans⟩
  exact ⟨_, List.perm_insertionSort _ rows, List.pairwise_insertionSort _ rows, rfl⟩

/-- The same matching rows have the same answers. -/
theorem Answers.of_perm {rows rows' answer : List α} (answers : Answers key limit rows answer)
    (same : rows.Perm rows') : Answers key limit rows' answer := by
  obtain ⟨sorted, permuted, ordered, rfl⟩ := answers
  exact ⟨sorted, permuted.trans same, ordered, rfl⟩

/-- Without a limit an answer has every matching row. -/
theorem Answers.perm {rows answer : List α} (answers : Answers key none rows answer) :
    answer.Perm rows := by
  obtain ⟨sorted, permuted, -, rfl⟩ := answers
  exact permuted

/-- The rows of an answer match. -/
theorem Answers.subset {rows answer : List α} (answers : Answers key limit rows answer) :
    answer ⊆ rows := by
  obtain ⟨sorted, permuted, -, rfl⟩ := answers
  intro row member
  refine permuted.mem_iff.mp ?_
  cases limit with
  | none => exact member
  | some n => exact List.mem_of_mem_take member

/-- All answers have as many rows. -/
theorem Answers.length {rows answer : List α} (answers : Answers key limit rows answer) :
    answer.length = limit.elim rows.length fun n => min n rows.length := by
  obtain ⟨sorted, permuted, -, rfl⟩ := answers
  cases limit with
  | none => exact permuted.length_eq
  | some n => simp [limited, permuted.length_eq]

/-- A matching row is left out only by the limit, and no answer comes behind it. -/
theorem Answers.mem_or {rows answer : List α} (answers : Answers key limit rows answer) {row : α}
    (member : row ∈ rows) : row ∈ answer ∨
      limit = some answer.length ∧ ∀ other ∈ answer, key other ≤ key row := by
  obtain ⟨sorted, permuted, ordered, rfl⟩ := answers
  have listed := permuted.mem_iff.mpr member
  cases limit with
  | none => exact .inl listed
  | some n =>
    rw [← List.take_append_drop n sorted] at listed ordered
    rcases List.mem_append.mp listed with taken | dropped
    · exact .inl taken
    · have long : n ≤ sorted.length := by
        by_contra short
        rw [List.drop_of_length_le (by omega)] at dropped
        exact absurd dropped List.not_mem_nil
      refine .inr ⟨by simp [limited, long], fun other taken => ?_⟩
      exact (List.pairwise_append.mp ordered).2.2 other taken row dropped

theorem Answers.pairwise {rows answer : List α} (answers : Answers key limit rows answer) :
    answer.Pairwise fun first second => key first ≤ key second := by
  obtain ⟨sorted, -, ordered, rfl⟩ := answers
  cases limit with
  | none => exact ordered
  | some n => exact ordered.sublist (List.take_sublist n sorted)

theorem Answers.nodup {rows answer : List α} (answers : Answers key limit rows answer)
    (distinct : rows.Nodup) : answer.Nodup := by
  obtain ⟨sorted, permuted, -, rfl⟩ := answers
  have nodup := permuted.nodup_iff.mpr distinct
  cases limit with
  | none => exact nodup
  | some n => exact nodup.sublist (List.take_sublist n sorted)

end Select
