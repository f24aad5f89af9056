/-
# Reading a cursor to its end

A cursor yields a row, or that there is none left, or an error. A reader that asks only
whether there is a row takes an error for the end: what it has read is then the first rows,
and all of them exactly when no step before the end failed.
-/

import Mathlib.Data.List.Basic
import Mathlib.Tactic.Common

namespace Cursor

variable {α : Type*}

/-- What a step yields. -/
inductive StepResult (α : Type*)
  | row (columns : α)
  | done
  | error

/-- A step of a cursor with rows left, which fails after so many more steps, if ever. -/
def step (left : List α) (failsIn : Option ℕ) : StepResult α :=
  if failsIn = some 0 then .error
  else
    match left with
    | [] => .done
    | row :: _ => .row row

/-- The row, if there is one. -/
def stepRow : StepResult α → Option α
  | .row columns => some columns
  | .done => none
  | .error => none

/-- The rows read while there is one. -/
def readLoop : List α → Option ℕ → List α
  | [], failsIn => (stepRow (step [] failsIn)).toList
  | row :: left, failsIn =>
    match stepRow (step (row :: left) failsIn) with
    | none => []
    | some columns => columns :: readLoop left (failsIn.map (· - 1))

/-- The row read if there is one. -/
def readOnce (left : List α) (failsIn : Option ℕ) : List α := (stepRow (step left failsIn)).toList

/-- No step before the end fails. -/
def Undisturbed (failsIn : Option ℕ) (rows : List α) : Prop := ∀ k ∈ failsIn, rows.length ≤ k

@[simp] theorem stepRow_step_nil (failsIn : Option ℕ) :
    stepRow (step ([] : List α) failsIn) = none := by
  unfold step
  split_ifs <;> rfl

theorem readLoop_none (rows : List α) : readLoop rows none = rows := by
  induction rows with
  | nil => rfl
  | cons row left ih => exact congrArg (row :: ·) ih

theorem readLoop_some (rows : List α) (k : ℕ) : readLoop rows (some k) = rows.take k := by
  induction rows generalizing k with
  | nil => rw [readLoop, stepRow_step_nil, List.take_nil, Option.toList_none]
  | cons row left ih =>
    cases k with
    | zero => rfl
    | succ k => exact congrArg (row :: ·) (ih k)

/-- What is read are the first rows, and all of them when no step fails before the end. -/
theorem readLoop_eq_take (rows : List α) (failsIn : Option ℕ) :
    ∃ n, readLoop rows failsIn = rows.take n ∧
      (rows.length ≤ n ↔ Undisturbed failsIn rows) := by
  cases failsIn with
  | none => exact ⟨rows.length, by rw [readLoop_none, List.take_length], by simp [Undisturbed]⟩
  | some k => exact ⟨k, readLoop_some rows k, by simp [Undisturbed]⟩

/-- The same of one step, where there is at most one row. -/
theorem readOnce_eq_take {rows : List α} (atMostOne : rows.length ≤ 1) (failsIn : Option ℕ) :
    ∃ n, readOnce rows failsIn = rows.take n ∧
      (rows.length ≤ n ↔ Undisturbed failsIn rows) := by
  have same : readOnce rows failsIn = readLoop rows failsIn := by
    match rows with
    | [] => rfl
    | [row] =>
      unfold readOnce readLoop
      cases stepRow (step [row] failsIn) with
      | none => rfl
      | some columns => simp [readLoop]
    | _ :: _ :: _ => exact absurd atMostOne (by simp)
  rw [same]
  exact readLoop_eq_take rows failsIn

end Cursor
