/-
# The numbers cJSON prints

What `print_number` writes of a number that is no 32-bit integer, as a value: its fifteen
significant digits where these give the number back but for the last place of a `double`, and
seventeen otherwise.
-/

import CapacityAgent.CJson.Parse
import CapacityAgent.Library.Binary64

namespace CapacityAgent.CJson

open Binary64 (nearest roundEven)

/-- The place of the last of so many significant digits. -/
def lastPlace (digits : ℕ) (d : Double) : ℚ := 10 ^ (Int.log 10 |d| + 1 - digits)

/-- What `%g` writes with so many digits. -/
def significant (digits : ℕ) (d : Double) : ℚ :=
  roundEven (d / lastPlace digits d) * lastPlace digits d

/-- `compare_double`. -/
def compareDouble (a b : Double) : Prop := nearest |a - b| ≤ nearest (max |a| |b| * 2 ^ (-52 : ℤ))

instance (a b : Double) : Decidable (compareDouble a b) :=
  inferInstanceAs (Decidable (nearest |a - b| ≤ nearest (max |a| |b| * 2 ^ (-52 : ℤ))))

/-- The number `print_number` writes. -/
def printedNumber (valuedouble : Double) : ℚ :=
  if valuedouble = valueint valuedouble then valuedouble
  else
    let short := significant 15 valuedouble
    if compareDouble (nearest short) valuedouble then short else significant 17 valuedouble

/-- An integer of no more digits is written as it is. -/
theorem significant_intCast {digits : ℕ} {n : ℤ} (small : |n| < 10 ^ digits) :
    significant digits n = n := by
  by_cases zero : n = 0
  · subst zero
    have none : roundEven ((0 : ℤ) : ℚ) = 0 := Binary64.roundEven_intCast 0
    rw [Int.cast_zero] at none
    rw [significant, Int.cast_zero, zero_div, none, Int.cast_zero, zero_mul]
  have positive : (0 : ℚ) < |(n : ℚ)| := abs_pos.mpr (by exact_mod_cast zero)
  have bound : |(n : ℚ)| < (10 : ℕ) ^ (digits : ℤ) := by exact_mod_cast small
  have log := (Int.lt_zpow_iff_log_lt (by decide) positive).mp bound
  -- the last place is a power of ten not above one, of which every integer is a multiple
  obtain ⟨scale, exponent⟩ : ∃ scale : ℕ, Int.log 10 |(n : ℚ)| + 1 - digits = -(scale : ℤ) :=
    ⟨(digits - (Int.log 10 |(n : ℚ)| + 1)).toNat, by omega⟩
  have place : lastPlace digits n = (10 ^ scale)⁻¹ := by
    rw [lastPlace, exponent, zpow_neg, zpow_natCast]
  have quotient : (n : ℚ) / (10 ^ scale)⁻¹ = ((n * 10 ^ scale : ℤ) : ℚ) := by
    rw [div_inv_eq_mul]
    push_cast
    rfl
  rw [significant, place, quotient, Binary64.roundEven_intCast]
  push_cast
  exact mul_inv_cancel_right₀ (pow_ne_zero _ (by norm_num)) _

/-- An integer of fifteen digits is written as it is. -/
theorem printedNumber_intCast {n : ℤ} (small : |n| < 10 ^ 15) : printedNumber n = n := by
  have fifteen := significant_intCast small
  have seventeen : significant 17 n = n := significant_intCast (small.trans (by norm_num))
  rw [printedNumber]
  dsimp only
  rw [fifteen, seventeen]
  split_ifs <;> rfl

/-- The number that is printed for a `double`, if it is finite. -/
def printed (valuedouble : Double) : Option ℚ :=
  if Binary64.IsInfinite valuedouble then none else some (printedNumber valuedouble)

theorem printed_intCast {n : ℤ} (small : |n| < 10 ^ 15) : printed n = some (n : ℚ) := by
  have finite : ¬ Binary64.IsInfinite n := by
    have bound : |(n : ℚ)| < 10 ^ 15 := by exact_mod_cast small
    have huge : (10 : ℚ) ^ 15 < 2 ^ 1024 := by decide +kernel
    exact not_le.mpr (bound.trans huge)
  rw [printed, if_neg finite, printedNumber_intCast small]

end CapacityAgent.CJson
