/-
# Signed arithmetic that may overflow

A signed operation of the machine has the exact result where it fits the type, and no
meaning otherwise. A computation is transcribed with every operation checked; that it
never stops is that nothing overflows.
-/

import Mathlib.Algebra.Group.Int.Defs
import Mathlib.Data.Int.Basic
import Mathlib.Tactic.Common

namespace Signed

/-- The number is one of the signed type of so many bits. -/
def Fits (bits : ℕ) (x : ℤ) : Prop := -2 ^ (bits - 1) ≤ x ∧ x < 2 ^ (bits - 1)

instance (bits : ℕ) (x : ℤ) : Decidable (Fits bits x) :=
  inferInstanceAs (Decidable (-2 ^ (bits - 1) ≤ x ∧ x < 2 ^ (bits - 1)))

variable {ε : Type*}

/-- The result of a signed operation, by its exact value. -/
def checked (bits : ℕ) (overflow : ε) (x : ℤ) : Except ε ℤ :=
  if Fits bits x then .ok x else .error overflow

theorem checked_eq_ok_iff {bits : ℕ} {overflow : ε} {x y : ℤ} :
    checked bits overflow x = .ok y ↔ Fits bits x ∧ x = y := by
  unfold checked
  split_ifs with fits
  · simp [fits]
  · simp [fits]

theorem checked_of_fits {bits : ℕ} {x : ℤ} (fits : Fits bits x) (overflow : ε) :
    checked bits overflow x = .ok x := if_pos fits

/-- An `int`. -/
theorem checked_int {x : ℤ} (low : -2147483648 ≤ x) (high : x < 2147483648) (overflow : ε) :
    checked 32 overflow x = .ok x := checked_of_fits ⟨low, high⟩ overflow

/-- An `int64_t`. -/
theorem checked_long {x : ℤ} (low : -9223372036854775808 ≤ x) (high : x < 9223372036854775808)
    (overflow : ε) : checked 64 overflow x = .ok x := checked_of_fits ⟨low, high⟩ overflow

end Signed
