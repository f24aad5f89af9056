/-
# Rounding to binary64

A rational is rounded to the nearest number of 53 binary digits, to the even one of two,
and to an infinity where that is too large. Where a power of two is the bound of a range,
rounding crosses it half a unit in the last place away, on either side.
-/

import Mathlib.Data.Int.Log
import Mathlib.Data.Rat.Floor
import Mathlib.Algebra.Order.Field.Power
import Mathlib.Algebra.Ring.Int.Parity
import Mathlib.Tactic.LinearCombination
import Mathlib.Tactic.Linarith
import Mathlib.Tactic.NormNum
import Mathlib.Tactic.Ring

namespace Binary64

/-! ## Rounding to an integer -/

/-- The nearest integer, the even one of two. -/
def roundEven (x : ℚ) : ℤ :=
  if x - ⌊x⌋ < 1 / 2 ∨ (x - ⌊x⌋ = 1 / 2 ∧ Even ⌊x⌋) then ⌊x⌋ else ⌊x⌋ + 1

theorem floor_le_roundEven (x : ℚ) : ⌊x⌋ ≤ roundEven x := by
  unfold roundEven
  split_ifs <;> omega

theorem roundEven_le_floor_add_one (x : ℚ) : roundEven x ≤ ⌊x⌋ + 1 := by
  unfold roundEven
  split_ifs <;> omega

/-- Where an even integer bounds the result from below. -/
theorem le_roundEven_iff {m : ℤ} (even : Even m) (x : ℚ) :
    m ≤ roundEven x ↔ (m : ℚ) - 1 / 2 ≤ x := by
  have low := Int.floor_le x
  have high := Int.lt_floor_add_one x
  rcases lt_trichotomy m (⌊x⌋ + 1) with below | next | above
  · have cast : (m : ℚ) ≤ ⌊x⌋ := by exact_mod_cast Int.lt_add_one_iff.mp below
    exact iff_of_true ((Int.lt_add_one_iff.mp below).trans (floor_le_roundEven x)) (by linarith)
  · -- the floor is odd, so a tie goes up
    have odd : ¬ Even ⌊x⌋ := by
      rw [next, Int.even_add_one] at even
      exact even
    have cast : (m : ℚ) = ⌊x⌋ + 1 := by exact_mod_cast next
    unfold roundEven
    split_ifs with down
    · rcases down with less | ⟨-, tie⟩
      · exact iff_of_false (by omega) (by linarith)
      · exact absurd tie odd
    · have far : ¬ x - ⌊x⌋ < 1 / 2 := fun less => down (.inl less)
      exact iff_of_true next.le (by linarith)
  · have cast : (⌊x⌋ : ℚ) + 2 ≤ m := by exact_mod_cast (by omega : ⌊x⌋ + 2 ≤ m)
    have bound := roundEven_le_floor_add_one x
    exact iff_of_false (by omega) (by linarith)

/-- Where an even integer bounds the result from above. -/
theorem roundEven_le_iff {m : ℤ} (even : Even m) (x : ℚ) :
    roundEven x ≤ m ↔ x ≤ (m : ℚ) + 1 / 2 := by
  have low := Int.floor_le x
  have high := Int.lt_floor_add_one x
  rcases lt_trichotomy m ⌊x⌋ with below | same | above
  · have cast : (m : ℚ) + 1 ≤ ⌊x⌋ := by exact_mod_cast (by omega : m + 1 ≤ ⌊x⌋)
    have bound := floor_le_roundEven x
    exact iff_of_false (by omega) (by linarith)
  · -- the floor is even, so a tie goes down
    have cast : (m : ℚ) = ⌊x⌋ := by exact_mod_cast same
    have evenFloor : Even ⌊x⌋ := same ▸ even
    unfold roundEven
    split_ifs with down
    · exact iff_of_true same.ge (by rcases down with less | ⟨tie, -⟩ <;> linarith)
    · have far : ¬ x - ⌊x⌋ < 1 / 2 := fun less => down (.inl less)
      have noTie : x - ⌊x⌋ ≠ 1 / 2 := fun tie => down (.inr ⟨tie, evenFloor⟩)
      have more : 1 / 2 < x - ⌊x⌋ := lt_of_le_of_ne (not_lt.mp far) noTie.symm
      exact iff_of_false (by omega) (by linarith)
  · have cast : (⌊x⌋ : ℚ) + 1 ≤ m := by exact_mod_cast (by omega : ⌊x⌋ + 1 ≤ m)
    exact iff_of_true ((roundEven_le_floor_add_one x).trans (by omega)) (by linarith)

theorem le_roundEven {n : ℤ} {x : ℚ} (le : (n : ℚ) ≤ x) : n ≤ roundEven x :=
  (Int.le_floor.mpr le).trans (floor_le_roundEven x)

theorem roundEven_le {n : ℤ} {x : ℚ} (le : x ≤ n) : roundEven x ≤ n := by
  rcases lt_or_eq_of_le (Int.floor_le_iff.mpr (by linarith) : ⌊x⌋ ≤ n) with below | same
  · exact (roundEven_le_floor_add_one x).trans below
  · have exact : x = n := le_antisymm le (same ▸ Int.floor_le x)
    rw [roundEven, if_pos (.inl (by rw [exact, Int.floor_intCast]; norm_num)), same]

@[simp] theorem roundEven_intCast (n : ℤ) : roundEven n = n :=
  le_antisymm (roundEven_le le_rfl) (le_roundEven le_rfl)

/-- What rounding is to find: an integer at most a half away, an even one at a half. -/
def IsNearest (x : ℚ) (n : ℤ) : Prop := |x - n| < 1 / 2 ∨ |x - n| = 1 / 2 ∧ Even n

theorem isNearest_roundEven (x : ℚ) : IsNearest x (roundEven x) := by
  have low := Int.floor_le x
  have high := Int.lt_floor_add_one x
  unfold roundEven IsNearest
  split_ifs with down
  · rwa [abs_of_nonneg (sub_nonneg.mpr low)]
  · have far : 1 / 2 ≤ x - ⌊x⌋ := not_lt.mp fun less => down (.inl less)
    rw [Int.cast_add, Int.cast_one, abs_of_neg (by linarith)]
    rcases eq_or_lt_of_le far with tie | more
    · exact .inr ⟨by linarith, Int.even_add_one.mpr fun even => down (.inr ⟨tie.symm, even⟩)⟩
    · exact .inl (by linarith)

theorem IsNearest.unique {x : ℚ} {m n : ℤ} (first : IsNearest x m) (second : IsNearest x n) :
    m = n := by
  have atMost : ∀ k, IsNearest x k → |x - k| ≤ 1 / 2 := fun k nearest =>
    nearest.elim le_of_lt fun tie => tie.1.le
  have near : |(m : ℚ) - n| ≤ 1 := by
    have left := abs_le.mp (atMost m first)
    have right := abs_le.mp (atMost n second)
    exact abs_le.mpr ⟨by linarith, by linarith⟩
  by_contra distinct
  -- both are at a half, and consecutive integers are not both even
  have gap : (1 : ℚ) ≤ |(m : ℚ) - n| := by
    exact_mod_cast Int.one_le_abs (sub_ne_zero.mpr distinct)
  have triangle : |(m : ℚ) - n| ≤ |x - m| + |x - n| := by
    have sum := abs_sub_le (m : ℚ) x n
    rwa [abs_sub_comm (m : ℚ) x] at sum
  have left := atMost m first
  have right := atMost n second
  have evenLeft : Even m := (first.resolve_left (by linarith)).2
  have evenRight : Even n := (second.resolve_left (by linarith)).2
  have one : |m - n| = 1 := by exact_mod_cast le_antisymm near gap
  have even : Even |m - n| := even_abs.mpr (evenLeft.sub evenRight)
  rw [one] at even
  exact absurd even (by decide)

theorem roundEven_neg (x : ℚ) : roundEven (-x) = -roundEven x := by
  refine (isNearest_roundEven (-x)).unique ?_
  have nearest := isNearest_roundEven x
  have same : |-x - ((-roundEven x : ℤ) : ℚ)| = |x - roundEven x| := by
    rw [Int.cast_neg, ← neg_sub', abs_neg]
  unfold IsNearest at nearest ⊢
  rwa [same, even_neg]

/-! ## The nearest number of 53 digits -/

/-- The exponent of the last of the 53 digits, not below that of the subnormal numbers. -/
def unitExponent (x : ℚ) : ℤ := max (Int.log 2 |x| - 52) (-1074)

/-- A unit in the last place. -/
def unit (x : ℚ) : ℚ := 2 ^ unitExponent x

/-- The nearest number, without regard to the largest exponent. -/
def nearest (x : ℚ) : ℚ := roundEven (x / unit x) * unit x

/-- A rounded number. -/
inductive Value
  | finite (x : ℚ)
  | infinite (negative : Bool)
  deriving DecidableEq

/-- The number a `double` holds for a rational. -/
def round (x : ℚ) : Value :=
  if 2 ^ 1024 ≤ |nearest x| then .infinite (decide (x < 0)) else .finite (nearest x)

@[simp] theorem unit_neg (x : ℚ) : unit (-x) = unit x := by
  rw [unit, unitExponent, abs_neg]
  rfl

@[simp] theorem nearest_neg (x : ℚ) : nearest (-x) = -nearest x := by
  rw [nearest, unit_neg, neg_div, roundEven_neg, Int.cast_neg, neg_mul]
  rfl

theorem unit_pos (x : ℚ) : 0 < unit x := zpow_pos two_pos _

theorem nearest_le {x : ℚ} {n : ℤ} (le : x ≤ n * unit x) : nearest x ≤ n * unit x :=
  mul_le_mul_of_nonneg_right
    (by exact_mod_cast roundEven_le ((div_le_iff₀ (unit_pos x)).mpr le)) (unit_pos x).le

theorem le_nearest {x : ℚ} {n : ℤ} (le : n * unit x ≤ x) : n * unit x ≤ nearest x :=
  mul_le_mul_of_nonneg_right
    (by exact_mod_cast le_roundEven ((le_div_iff₀ (unit_pos x)).mpr le)) (unit_pos x).le

/-- A multiple of its own unit is not rounded. -/
theorem nearest_of_multiple {x : ℚ} {n : ℤ} (multiple : x = n * unit x) : nearest x = x := by
  have quotient : x / unit x = n := by
    rw [div_eq_iff (unit_pos x).ne']
    exact multiple
  rw [nearest, quotient, roundEven_intCast]
  exact multiple.symm

/-- A power of two is a multiple of a smaller one. -/
theorem exists_multiple {i j : ℤ} (le : i ≤ j) : ∃ n : ℤ, (2 : ℚ) ^ j = n * 2 ^ i := by
  refine ⟨2 ^ (j - i).toNat, ?_⟩
  have split : j = ((j - i).toNat : ℤ) + i := by omega
  rw [Int.cast_pow, Int.cast_ofNat, ← zpow_natCast, ← zpow_add₀ two_ne_zero, ← split]

theorem log_lt_of_lt {x : ℚ} (positive : 0 < x) {j : ℤ} (lt : x < 2 ^ j) : Int.log 2 |x| < j := by
  rw [abs_of_pos positive]
  exact (Int.lt_zpow_iff_log_lt one_lt_two positive).mp (by exact_mod_cast lt)

theorem le_log_of_le {x : ℚ} (positive : 0 < x) {j : ℤ} (le : 2 ^ j ≤ x) : j ≤ Int.log 2 |x| := by
  rw [abs_of_pos positive]
  exact (Int.zpow_le_iff_le_log one_lt_two positive).mp (by exact_mod_cast le)

/-- Rounding does not cross a power of two from below. -/
theorem nearest_le_zpow {x : ℚ} {j : ℤ} (least : -1074 ≤ j) (le : x ≤ 2 ^ j) :
    nearest x ≤ 2 ^ j := by
  rcases le_or_gt x 0 with nonpositive | positive
  · have negative : nearest x ≤ (0 : ℤ) * unit x := nearest_le (by simpa using nonpositive)
    exact negative.trans (by simpa using (zpow_pos two_pos j).le)
  · have small : Int.log 2 |x| < j + 1 :=
      log_lt_of_lt positive (le.trans_lt (zpow_lt_zpow_right₀ one_lt_two (by omega)))
    obtain ⟨n, multiple⟩ := exists_multiple (show unitExponent x ≤ j by unfold unitExponent; omega)
    rw [multiple] at le ⊢
    exact nearest_le le

/-- Nor from above. -/
theorem zpow_le_nearest {x : ℚ} {j : ℤ} (least : -1074 ≤ j) (le : 2 ^ j ≤ x) :
    2 ^ j ≤ nearest x := by
  by_cases fine : unitExponent x ≤ j
  · obtain ⟨n, multiple⟩ := exists_multiple fine
    rw [multiple] at le ⊢
    exact le_nearest le
  · -- the unit is larger than the bound, and the number has 53 digits before it
    have positive : 0 < x := (zpow_pos two_pos j).trans_le le
    have unitLe : unit x ≤ x := by
      have power := Int.zpow_log_le_self one_lt_two (abs_pos.mpr positive.ne')
      rw [abs_of_pos positive, Nat.cast_ofNat] at power
      refine le_trans (zpow_le_zpow_right₀ one_lt_two.le ?_) power
      rw [unitExponent, abs_of_pos positive] at fine ⊢
      omega
    have least : ((1 : ℤ) : ℚ) * unit x ≤ nearest x := le_nearest (by simpa using unitLe)
    rw [Int.cast_one, one_mul] at least
    exact (zpow_le_zpow_right₀ one_lt_two.le (by omega)).trans least

/-! ## Bounds at a power of two -/

/-- Between a power of two and the next the unit is that of the lower one. -/
theorem unitExponent_of_mem {x : ℚ} {k : ℤ} (normal : -1022 ≤ k) (low : 2 ^ k ≤ x)
    (high : x < 2 ^ (k + 1)) : unitExponent x = k - 52 := by
  have positive : 0 < x := (zpow_pos two_pos k).trans_le low
  have least := le_log_of_le positive low
  have most := log_lt_of_lt positive high
  unfold unitExponent
  omega

theorem unit_of_mem {x : ℚ} {k : ℤ} (normal : -1022 ≤ k) (low : 2 ^ k ≤ x)
    (high : x < 2 ^ (k + 1)) : unit x = 2 * 2 ^ (k - 53) := by
  rw [unit, unitExponent_of_mem normal low high, ← zpow_one_add₀ two_ne_zero]
  congr 1
  omega

theorem zpow_eq_mul (k : ℤ) (n : ℕ) : (2 : ℚ) ^ (k + n) = 2 ^ n * 2 ^ k := by
  rw [zpow_add₀ two_ne_zero, zpow_natCast, mul_comm]

/-- A number is rounded up to a power of two from half a unit below it on. -/
theorem zpow_le_nearest_iff {x : ℚ} {k : ℤ} (normal : -1022 ≤ k) :
    2 ^ (k + 1) ≤ nearest x ↔ 2 ^ (k + 1) - 2 ^ (k - 53) ≤ x := by
  have half : (0 : ℚ) < 2 ^ (k - 53) := zpow_pos two_pos _
  have fine : (2 : ℚ) ^ k = 2 ^ 53 * 2 ^ (k - 53) := by rw [← zpow_eq_mul]; congr 1; omega
  have next : (2 : ℚ) ^ (k + 1) = 2 ^ 54 * 2 ^ (k - 53) := by rw [← zpow_eq_mul]; congr 1; omega
  rcases lt_or_ge x (2 ^ k) with below | low
  · have bounded := nearest_le_zpow (by omega) below.le
    exact iff_of_false (by linarith) (by linarith)
  · rcases lt_or_ge x (2 ^ (k + 1)) with high | above
    · have unitEq := unit_of_mem normal low high
      have even : Even ((2 : ℤ) ^ 53) := ⟨2 ^ 52, by norm_num⟩
      have scaled : (2 : ℚ) ^ (k + 1) = ((2 ^ 53 : ℤ) : ℚ) * unit x := by
        rw [next, unitEq]
        push_cast
        ring
      rw [nearest, scaled, mul_le_mul_iff_left₀ (unit_pos x), Int.cast_le, le_roundEven_iff even,
        le_div_iff₀ (unit_pos x), sub_mul, ← scaled, unitEq]
      constructor <;> intro bound <;> linarith
    · exact iff_of_true (zpow_le_nearest (by omega) above) (by linarith)

/-- A number is rounded down to a power of two up to half a unit above it. -/
theorem nearest_le_zpow_iff {x : ℚ} {k : ℤ} (normal : -1022 ≤ k) :
    nearest x ≤ 2 ^ k ↔ x ≤ 2 ^ k + 2 ^ (k - 53) := by
  have half : (0 : ℚ) < 2 ^ (k - 53) := zpow_pos two_pos _
  have fine : (2 : ℚ) ^ k = 2 ^ 53 * 2 ^ (k - 53) := by rw [← zpow_eq_mul]; congr 1; omega
  have next : (2 : ℚ) ^ (k + 1) = 2 ^ 54 * 2 ^ (k - 53) := by rw [← zpow_eq_mul]; congr 1; omega
  rcases le_or_gt x (2 ^ k) with below | low
  · exact iff_of_true (nearest_le_zpow (by omega) below) (by linarith)
  · rcases lt_or_ge x (2 ^ (k + 1)) with high | above
    · have unitEq := unit_of_mem normal low.le high
      have even : Even ((2 : ℤ) ^ 52) := ⟨2 ^ 51, by norm_num⟩
      have scaled : (2 : ℚ) ^ k = ((2 ^ 52 : ℤ) : ℚ) * unit x := by
        rw [fine, unitEq]
        push_cast
        ring
      rw [nearest, scaled, mul_le_mul_iff_left₀ (unit_pos x), Int.cast_le, roundEven_le_iff even,
        div_le_iff₀ (unit_pos x), add_mul, ← scaled, unitEq]
      constructor <;> intro bound <;> linarith
    · have far := zpow_le_nearest (x := x) (by omega) above
      exact iff_of_false (by linarith) (by linarith)

/-! ## Ranges of integers -/

/-- The number is in the range of a signed integer of so many bits. -/
def Value.InRange (bits : ℕ) : Value → Prop
  | .finite x => -2 ^ (bits - 1) ≤ x ∧ x < 2 ^ (bits - 1)
  | .infinite _ => False

instance (bits : ℕ) : (value : Value) → Decidable (value.InRange bits)
  | .finite x => inferInstanceAs (Decidable (-2 ^ (bits - 1) ≤ x ∧ x < 2 ^ (bits - 1)))
  | .infinite _ => inferInstanceAs (Decidable False)

/-- The rationals that are rounded into the range of 64-bit integers. -/
theorem inRange_round_iff {x : ℚ} :
    (round x).InRange 64 ↔ -2 ^ 63 - 2 ^ 10 ≤ x ∧ x < 2 ^ 63 - 2 ^ 9 := by
  have upper : (2 : ℚ) ^ 63 ≤ nearest x ↔ (2 : ℚ) ^ 63 - 2 ^ 9 ≤ x :=
    zpow_le_nearest_iff (x := x) (k := 62) (by decide)
  have lower : nearest (-x) ≤ (2 : ℚ) ^ 63 ↔ -x ≤ (2 : ℚ) ^ 63 + 2 ^ 10 :=
    nearest_le_zpow_iff (x := -x) (k := 63) (by decide)
  rw [nearest_neg] at lower
  have bounds : -2 ^ 63 ≤ nearest x ∧ nearest x < 2 ^ 63 ↔
      -2 ^ 63 - 2 ^ 10 ≤ x ∧ x < 2 ^ 63 - 2 ^ 9 := by
    rw [← not_le, upper, ← not_le (a := (2 : ℚ) ^ 63 - 2 ^ 9), neg_le, lower]
    constructor <;> rintro ⟨low, high⟩ <;> exact ⟨by linarith, high⟩
  unfold round
  split_ifs with huge
  · refine iff_of_false id fun inside => ?_
    have limited := abs_le.mpr ⟨(bounds.mpr inside).1, (bounds.mpr inside).2.le⟩
    exact absurd (huge.trans limited) (not_le.mpr (pow_lt_pow_right₀ one_lt_two (by decide)))
  · exact bounds

@[simp] theorem nearest_zero : nearest 0 = 0 := by
  rw [nearest, zero_div, show roundEven 0 = 0 from roundEven_intCast 0, Int.cast_zero, zero_mul]

theorem nearest_zpow {j : ℤ} (least : -1074 ≤ j) : nearest (2 ^ j) = 2 ^ j :=
  le_antisymm (nearest_le_zpow least le_rfl) (zpow_le_nearest least le_rfl)

/-- An integer of 53 bits is a multiple of its unit. -/
theorem nearest_intCast {n : ℤ} (small : |n| ≤ 2 ^ 53) : nearest n = n := by
  have power : nearest (2 ^ 53) = 2 ^ 53 := nearest_zpow (j := 53) (by decide)
  rcases eq_or_ne n 0 with rfl | nonzero
  · exact nearest_zero
  rcases eq_or_lt_of_le small with largest | smaller
  · rcases eq_or_eq_neg_of_abs_eq largest with rfl | rfl
    · exact_mod_cast power
    · have cast : ((-2 ^ 53 : ℤ) : ℚ) = -2 ^ 53 := by norm_num
      rw [cast, nearest_neg, power]
  · have bound : |(n : ℚ)| < 2 ^ (53 : ℤ) := by exact_mod_cast smaller
    have digits := log_lt_of_lt (abs_pos.mpr (Int.cast_ne_zero.mpr nonzero)) bound
    rw [abs_abs] at digits
    obtain ⟨m, one⟩ := exists_multiple (show unitExponent n ≤ 0 by unfold unitExponent; omega)
    refine nearest_of_multiple (n := n * m) ?_
    rw [Int.cast_mul, mul_assoc, unit, ← one, zpow_zero, mul_one]

/-! ## Numbers close to a binary number -/

theorem roundEven_of_near {x : ℚ} {n : ℤ} (near : |x - n| < 1 / 2) : roundEven x = n :=
  (isNearest_roundEven x).unique (.inl near)

/-- A binary number is a multiple of its unit, by less than 53 binary digits. -/
theorem exists_digits {d : ℚ} (positive : 0 < d) (binary : nearest d = d) :
    ∃ n : ℤ, d = n * unit d ∧ 0 < n ∧ n < 2 ^ 53 := by
  refine ⟨roundEven (d / unit d), binary.symm, ?_, ?_⟩
  · have scaled : 0 < (roundEven (d / unit d) : ℚ) * unit d := positive.trans_eq binary.symm
    exact_mod_cast (mul_pos_iff_of_pos_right (unit_pos d)).mp scaled
  · have exponent : Int.log 2 d + 1 ≤ 53 + unitExponent d := by
      rw [unitExponent, abs_of_pos positive]
      omega
    have below : d < 2 ^ (53 : ℤ) * unit d := by
      rw [unit, ← zpow_add₀ two_ne_zero]
      refine (Int.lt_zpow_succ_log_self (b := 2) one_lt_two d).trans_le ?_
      exact zpow_le_zpow_right₀ one_le_two exponent
    have digits : (roundEven (d / unit d) : ℚ) * unit d < 2 ^ (53 : ℤ) * unit d := by
      rwa [show (roundEven (d / unit d) : ℚ) * unit d = d from binary]
    exact_mod_cast lt_of_mul_lt_mul_right digits (unit_pos d).le

/-- Where the unit is the same, less than half a unit is rounded away. -/
theorem nearest_eq_of_unit_eq {d y : ℚ} {n : ℤ} (multiple : d = n * unit d)
    (same : unit y = unit d) (near : |y - d| < unit d / 2) : nearest y = d := by
  have positive := unit_pos d
  have quotient : |y / unit d - n| < 1 / 2 := by
    have scaled : y / unit d - n = (y - d) / unit d := by
      rw [sub_div, div_eq_iff positive.ne' |>.mpr multiple]
    rw [scaled, abs_div, abs_of_pos positive, div_lt_iff₀ positive]
    linarith
  rw [nearest, same, roundEven_of_near quotient]
  exact multiple.symm

/-- Below a power of two the unit is halved. -/
theorem nearest_eq_of_unit_half {d y : ℚ} {n : ℤ} (multiple : d = n * unit d)
    (half : unit y = unit d / 2) (near : |y - d| < unit d / 4) : nearest y = d := by
  have positive := unit_pos d
  have quotient : |y / unit y - (2 * n : ℤ)| < 1 / 2 := by
    have scaled : y / unit y - (2 * n : ℤ) = (y - d) / (unit d / 2) := by
      rw [half, sub_div, sub_right_inj, eq_div_iff (by positivity)]
      push_cast
      linear_combination -multiple
    rw [scaled, abs_div, abs_of_pos (by positivity : 0 < unit d / 2),
      div_lt_iff₀ (by positivity)]
    linarith
  rw [nearest, roundEven_of_near quotient, half]
  push_cast
  linear_combination -multiple

/-- The unit of a number close to a binary number is its unit, or half of that just below a
power of two. -/
theorem unit_of_near {d y : ℚ} {n : ℤ} (multiple : d = n * unit d) (least : 0 < n)
    (most : n < 2 ^ 53) (above : d - n * unit d / 2 ^ 54 < y) (below : y < d + unit d / 2) :
    unit y = unit d ∨ n = 2 ^ 52 ∧ unit y = unit d / 2 := by
  have step := unit_pos d
  have most' : (n : ℚ) ≤ 2 ^ 53 - 1 := by exact_mod_cast Int.le_sub_one_of_lt most
  have least' : (1 : ℚ) ≤ n := by exact_mod_cast least
  have loose : d - unit d / 2 < y := by nlinarith
  have positive : 0 < d := by nlinarith
  have y_pos : 0 < y := by nlinarith
  have d_low : (2 : ℚ) ^ Int.log 2 d ≤ d := Int.zpow_log_le_self one_lt_two positive
  have d_high : d < (2 : ℚ) ^ (Int.log 2 d + 1) := Int.lt_zpow_succ_log_self one_lt_two d
  have y_low : (2 : ℚ) ^ Int.log 2 y ≤ y := Int.zpow_log_le_self one_lt_two y_pos
  have y_high : y < (2 : ℚ) ^ (Int.log 2 y + 1) := Int.lt_zpow_succ_log_self one_lt_two y
  have grows : ∀ {i j : ℤ}, i ≤ j → (2 : ℚ) ^ i ≤ 2 ^ j := zpow_le_zpow_right₀ one_le_two
  have double (k : ℤ) : (2 : ℚ) ^ (k + 1) = 2 * 2 ^ k := zpow_eq_mul k 1 |>.trans (by norm_num)
  have log_le : Int.log 2 y ≤ Int.log 2 d + 1 := by
    by_contra beyond
    have far := grows (show Int.log 2 d + 1 + 1 ≤ Int.log 2 y by omega)
    rw [double] at far
    nlinarith
  have le_log : Int.log 2 d - 1 ≤ Int.log 2 y := by
    by_contra short
    have far := grows (show Int.log 2 y + 1 + 1 ≤ Int.log 2 d by omega)
    rw [double] at far
    nlinarith
  have unit_d : unit d = 2 ^ max (Int.log 2 d - 52) (-1074) := by
    rw [unit, unitExponent, abs_of_pos positive]
  have unit_y : unit y = 2 ^ max (Int.log 2 y - 52) (-1074) := by
    rw [unit, unitExponent, abs_of_pos y_pos]
  rcases lt_or_ge (Int.log 2 d - 52) (-1074) with subnormal | normal
  · -- nothing is finer than the unit of the subnormal numbers
    left
    rw [unit_d, unit_y, max_eq_right subnormal.le, max_eq_right (by omega)]
  rw [max_eq_left normal] at unit_d
  have scaled : (2 : ℚ) ^ Int.log 2 d = 2 ^ 52 * unit d := by
    rw [unit_d, ← zpow_natCast, ← zpow_add₀ two_ne_zero]
    congr 1
    push_cast
    ring
  rcases lt_trichotomy (Int.log 2 y) (Int.log 2 d) with lower | same | higher
  · have log_y : Int.log 2 y = Int.log 2 d - 1 := by omega
    rcases eq_or_lt_of_le normal with least_ | finer
    · left
      rw [unit_d, unit_y, log_y, max_eq_right (by omega), least_]
    -- the power of two lies between, so the number is that power
    right
    have between := grows (show Int.log 2 y + 1 ≤ Int.log 2 d by omega)
    have digits : n < 2 ^ 52 + 1 := by
      have digits : (n : ℚ) < 2 ^ 52 + 1 := by nlinarith
      exact_mod_cast digits
    have digits' : 2 ^ 52 ≤ n := by
      have scaled' : (2 : ℚ) ^ 52 * unit d ≤ n * unit d := by
        rw [← scaled, ← multiple]
        exact d_low
      exact_mod_cast le_of_mul_le_mul_right scaled' step
    refine ⟨le_antisymm (Int.lt_add_one_iff.mp digits) digits', ?_⟩
    rw [unit_d, unit_y, log_y, max_eq_left (by omega), eq_div_iff two_ne_zero, mul_comm,
      ← zpow_one_add₀ two_ne_zero]
    congr 1
    ring
  · left
    rw [unit_d, unit_y, same, max_eq_left normal]
  · -- the next power of two is at least a unit above
    have beyond := grows (show Int.log 2 d + 1 ≤ Int.log 2 y by omega)
    rw [double, scaled] at beyond
    nlinarith

/-- **What is close to a binary number is rounded to it**: half a unit of the last place is at
least this part of the number, and so is a quarter where the number is a power of two. -/
theorem nearest_eq_of_near {d y : ℚ} (binary : nearest d = d)
    (near : |y - d| < |d| / 2 ^ 54) : nearest y = d := by
  -- by symmetry the number is positive
  wlog positive : 0 < d generalizing d y
  · have nonzero : d ≠ 0 := by
      rintro rfl
      rw [abs_zero, zero_div] at near
      exact absurd near (not_lt.mpr (abs_nonneg _))
    have negative : 0 < -d := neg_pos.mpr (lt_of_le_of_ne (not_lt.mp positive) nonzero)
    have opposite : nearest (-y) = -d := by
      refine this ?_ ?_ negative
      · rw [nearest_neg, binary]
      · rw [abs_neg, ← neg_sub', abs_neg]
        exact near
    rwa [nearest_neg, neg_inj] at opposite
  obtain ⟨n, multiple, least, most⟩ := exists_digits positive binary
  have step := unit_pos d
  have most' : (n : ℚ) ≤ 2 ^ 53 - 1 := by exact_mod_cast Int.le_sub_one_of_lt most
  have near' : |y - d| < n * unit d / 2 ^ 54 := by
    rw [abs_of_pos positive] at near
    rwa [← multiple]
  have half : n * unit d / 2 ^ 54 < unit d / 2 := by nlinarith
  obtain ⟨above, below⟩ := abs_lt.mp near'
  have above' : d - n * unit d / 2 ^ 54 < y := by linarith
  rcases unit_of_near multiple least most above' (by linarith) with same | ⟨rfl, halved⟩
  · exact nearest_eq_of_unit_eq multiple same (near'.trans half)
  · refine nearest_eq_of_unit_half multiple halved (near'.trans_eq ?_)
    push_cast
    ring

/-! ## What a `double` holds -/

/-- A rounded number as a rational; an infinity stands at the bound of the finite numbers. -/
def Value.toRat : Value → ℚ
  | .finite x => x
  | .infinite negative => if negative then -2 ^ 1024 else 2 ^ 1024

/-- What a `double` holds of a rational. -/
def held (x : ℚ) : ℚ := (round x).toRat

/-- What stands for an infinity. -/
def IsInfinite (x : ℚ) : Prop := 2 ^ 1024 ≤ |x|

instance : DecidablePred IsInfinite := fun x => inferInstanceAs (Decidable (2 ^ 1024 ≤ |x|))

theorem held_of_finite {x : ℚ} (finite : |nearest x| < 2 ^ 1024) : held x = nearest x := by
  rw [held, round, if_neg (not_le.mpr finite)]
  rfl

/-- An integer of 53 bits is held as it is. -/
theorem held_intCast {n : ℤ} (small : |n| ≤ 2 ^ 53) : held n = n := by
  have same := nearest_intCast small
  have finite : |nearest n| < 2 ^ 1024 := by
    have cast : |(n : ℚ)| ≤ 2 ^ 53 := by exact_mod_cast small
    rw [same]
    exact cast.trans_lt (pow_lt_pow_right₀ one_lt_two (by decide))
  rw [held_of_finite finite, same]

/-- The rationals that are held in the range of 64-bit integers. -/
theorem held_inRange_iff {x : ℚ} :
    -2 ^ 63 ≤ held x ∧ held x < 2 ^ 63 ↔ -2 ^ 63 - 2 ^ 10 ≤ x ∧ x < 2 ^ 63 - 2 ^ 9 := by
  rw [← inRange_round_iff, held]
  cases round x with
  | finite y => exact Iff.rfl
  | infinite negative =>
    -- neither end of the finite numbers is in the range
    refine iff_of_false ?_ id
    have wide : (2 : ℚ) ^ 63 < 2 ^ 1024 := pow_lt_pow_right₀ one_lt_two (by decide)
    rintro ⟨low, high⟩
    cases negative with
    | false => exact absurd high (not_lt.mpr wide.le)
    | true => exact absurd low (not_le.mpr (neg_lt_neg wide))

end Binary64
