/-
# How numbers are written

`print_number` with the C library's `%1.15g` and `%1.17g`: the significant digits are rounded
to even, the point stands among them or the exponent behind them, and trailing zeros of the
fraction are left out. What is written says the number of these digits, and reading it
gives a number that `compare_double` takes for the one printed.
-/

import CapacityAgent.CJson.Print
import CapacityAgent.CJson.PrintedNumber
import CapacityAgent.Library.JsonCompact
import Mathlib.Data.List.DropRight

namespace CapacityAgent.CJson

open Binary64 (nearest roundEven)
open Json (Digit Exponent Number digitsValue fixedDigits natDigits)

/-! ## Digits -/

/-- Trailing zeros are not written. -/
def stripZeros (digits : List Digit) : List Digit := digits.rdropWhile fun d => d = 0

theorem exists_stripZeros (digits : List Digit) :
    ∃ n, digits = stripZeros digits ++ List.replicate n 0 := by
  induction digits using List.reverseRecOn with
  | nil => exact ⟨0, rfl⟩
  | append_singleton rest d ih =>
    by_cases zero : d = 0
    · obtain ⟨n, same⟩ := ih
      refine ⟨n + 1, ?_⟩
      rw [stripZeros, List.rdropWhile_concat_pos _ _ _ (by simpa using zero), zero,
        List.replicate_succ', ← List.append_assoc, ← stripZeros, ← same]
    · refine ⟨0, ?_⟩
      rw [stripZeros, List.rdropWhile_concat_neg _ _ _ (by simpa using zero)]
      simp

theorem digitsValue_replicate (n : ℕ) : digitsValue (List.replicate n 0) = 0 := by
  induction n with
  | zero => rfl
  | succ n ih =>
    rw [List.replicate_succ', Json.digitsValue_append, ih]
    rfl

/-- The zeros do not count. -/
theorem decimal_stripZeros (negative : Bool) (whole fraction : List Digit) (exponent : ℤ) :
    Number.decimal negative whole (stripZeros fraction) exponent =
      Number.decimal negative whole fraction exponent := by
  obtain ⟨n, same⟩ := exists_stripZeros fraction
  have grown : digitsValue (whole ++ fraction) =
      digitsValue (whole ++ stripZeros fraction) * 10 ^ n := by
    rw [congrArg (whole ++ ·) same, ← List.append_assoc, Json.digitsValue_append,
      digitsValue_replicate, List.length_replicate, add_zero]
  have longer : fraction.length = (stripZeros fraction).length + n := by
    rw [congrArg List.length same, List.length_append, List.length_replicate]
  have power : (10 : ℚ) ^ n ≠ 0 := pow_ne_zero n (by norm_num)
  unfold Number.decimal
  rw [grown, longer, pow_add]
  push_cast
  rw [mul_div_mul_right _ _ power]

theorem length_fixedDigits (width n : ℕ) : (fixedDigits width n).length = width := by
  induction width generalizing n with
  | zero => rfl
  | succ width ih => rw [fixedDigits, List.length_append, ih, List.length_singleton]

/-! ## Significant digits -/

/-- The significant digits, of which the first is not zero, and the exponent of the first. -/
structure Scaled where
  first : Digit
  rest : List Digit
  exponent : ℤ
  nonzero : first ≠ 0

/-- The number of these digits. -/
def Scaled.value (s : Scaled) : ℚ :=
  digitsValue (s.first :: s.rest) * 10 ^ (s.exponent - s.rest.length)

/-- The significant digits as a whole number, and the exponent of the first. Rounding up may
have made one digit more, a zero. -/
def roundedDigits (places : ℕ) (d : Double) : ℕ × ℤ :=
  let digits := (roundEven (|d| / lastPlace (places + 1) d)).natAbs
  if digits = 10 ^ (places + 1) then (10 ^ places, Int.log 10 |d| + 1)
  else (digits, Int.log 10 |d|)

theorem lastPlace_pos (digits : ℕ) (d : Double) : 0 < lastPlace digits d :=
  zpow_pos (by norm_num) _

/-- The digits before the last place, as a bound. -/
theorem abs_div_lastPlace {d : Double} (nonzero : d ≠ 0) (places : ℕ) :
    10 ^ places ≤ |d| / lastPlace (places + 1) d ∧
      |d| / lastPlace (places + 1) d < 10 ^ (places + 1) := by
  have positive := abs_pos.mpr nonzero
  have low : (10 : ℚ) ^ Int.log 10 |d| ≤ |d| := Int.zpow_log_le_self (by decide) positive
  have high : |d| < (10 : ℚ) ^ (Int.log 10 |d| + 1) := Int.lt_zpow_succ_log_self (by decide) |d|
  have ten : (10 : ℚ) ≠ 0 := by norm_num
  have place := lastPlace_pos (places + 1) d
  constructor
  · rw [le_div_iff₀ place, lastPlace, ← zpow_natCast, ← zpow_add₀ ten]
    refine low.trans_eq' (congrArg _ ?_)
    push_cast
    ring
  · rw [div_lt_iff₀ place, lastPlace, ← zpow_natCast, ← zpow_add₀ ten]
    refine high.trans_eq (congrArg _ ?_)
    push_cast
    ring

theorem roundedDigits_bounds {d : Double} (nonzero : d ≠ 0) (places : ℕ) :
    10 ^ places ≤ (roundedDigits places d).1 ∧
      (roundedDigits places d).1 < 10 ^ (places + 1) := by
  obtain ⟨low, high⟩ := abs_div_lastPlace nonzero places
  have least : (10 ^ places : ℤ) ≤ roundEven (|d| / lastPlace (places + 1) d) :=
    Binary64.le_roundEven (by exact_mod_cast low)
  have most : roundEven (|d| / lastPlace (places + 1) d) ≤ (10 ^ (places + 1) : ℤ) :=
    Binary64.roundEven_le (by exact_mod_cast high.le)
  rw [roundedDigits]
  split_ifs with more
  · exact ⟨le_rfl, Nat.pow_lt_pow_right (by decide) (Nat.lt_succ_self places)⟩
  · refine ⟨?_, lt_of_le_of_ne ?_ more⟩
    · zify
      exact least.trans (le_abs_self _)
    · zify
      rw [abs_of_nonneg (least.trans' (by positivity))]
      exact most

/-- The digits and their exponent, of a number that is not zero. -/
def scaled (places : ℕ) (d : Double) (nonzero : d ≠ 0) : Scaled where
  first := Fin.ofNat 10 ((roundedDigits places d).1 / 10 ^ places)
  rest := fixedDigits places (roundedDigits places d).1
  exponent := (roundedDigits places d).2
  nonzero := by
    obtain ⟨low, high⟩ := roundedDigits_bounds nonzero places
    have one := Nat.div_pos low (Nat.pow_pos (by decide))
    have nine : (roundedDigits places d).1 / 10 ^ places < 10 :=
      Nat.div_lt_of_lt_mul (by rwa [← pow_succ])
    intro zero
    have same : (roundedDigits places d).1 / 10 ^ places % 10 = 0 := congrArg Fin.val zero
    omega

theorem digitsValue_scaled (places : ℕ) {d : Double} (nonzero : d ≠ 0) :
    digitsValue ((scaled places d nonzero).first :: (scaled places d nonzero).rest) =
      (roundedDigits places d).1 := by
  obtain ⟨low, high⟩ := roundedDigits_bounds nonzero places
  have nine : (roundedDigits places d).1 / 10 ^ places < 10 :=
    Nat.div_lt_of_lt_mul (by rwa [← pow_succ])
  have first : digitsValue [(scaled places d nonzero).first] =
      (roundedDigits places d).1 / 10 ^ places := by
    have digit : digitsValue [(scaled places d nonzero).first] =
        (roundedDigits places d).1 / 10 ^ places % 10 := by
      simp [digitsValue, scaled]
    rw [digit, Nat.mod_eq_of_lt nine]
  have rest : digitsValue (scaled places d nonzero).rest =
      (roundedDigits places d).1 % 10 ^ places := Json.digitsValue_fixedDigits places _
  rw [← List.singleton_append, Json.digitsValue_append, first, rest]
  have length : (scaled places d nonzero).rest.length = places := length_fixedDigits places _
  rw [length, mul_comm]
  exact Nat.div_add_mod _ _

/-- A sign as a factor. -/
def signFactor (negative : Bool) : ℚ := if negative then -1 else 1

/-- The digits are those of the number rounded. -/
theorem value_scaled (places : ℕ) {d : Double} (nonzero : d ≠ 0) :
    signFactor (decide (d < 0)) * (scaled places d nonzero).value = significant (places + 1) d := by
  obtain ⟨low, -⟩ := abs_div_lastPlace nonzero places
  have nonneg : 0 ≤ roundEven (|d| / lastPlace (places + 1) d) :=
    Binary64.le_roundEven (by exact_mod_cast (low.trans' (by positivity)))
  have digits : (((roundEven (|d| / lastPlace (places + 1) d)).natAbs : ℕ) : ℚ) =
      roundEven (|d| / lastPlace (places + 1) d) := by
    rw [Nat.cast_natAbs, abs_of_nonneg nonneg]
  have magnitude : (scaled places d nonzero).value =
      roundEven (|d| / lastPlace (places + 1) d) * lastPlace (places + 1) d := by
    have length : (scaled places d nonzero).rest.length = places := length_fixedDigits places _
    rw [Scaled.value, digitsValue_scaled, length, ← digits]
    have exponent : (scaled places d nonzero).exponent = (roundedDigits places d).2 := rfl
    rw [exponent, roundedDigits]
    split_ifs with more
    · rw [more, lastPlace, Nat.cast_pow, Nat.cast_pow, ← zpow_natCast, ← zpow_natCast,
        Nat.cast_ofNat, ← zpow_add₀ (by norm_num), ← zpow_add₀ (by norm_num)]
      congr 1
      push_cast
      ring
    · rw [lastPlace]
      congr 2
      push_cast
      ring
  rw [magnitude, significant, signFactor]
  by_cases negative : d < 0
  · rw [if_pos (by simpa using negative), abs_of_neg negative, neg_div, Binary64.roundEven_neg]
    push_cast
    ring
  · rw [if_neg (by simpa using negative), abs_of_nonneg (not_lt.mp negative), one_mul]

/-! ## Layout -/

/-- An exponent is written with two digits at least. -/
def exponentDigits (n : ℕ) : List Digit := if n < 10 then [0, Fin.ofNat 10 n] else natDigits n

theorem digitsValue_exponentDigits (n : ℕ) : digitsValue (exponentDigits n) = n := by
  unfold exponentDigits
  split_ifs with short
  · simpa [digitsValue] using Nat.mod_eq_of_lt short
  · exact Json.digitsValue_natDigits n

theorem exponentDigits_ne_nil (n : ℕ) : exponentDigits n ≠ [] := by
  unfold exponentDigits
  split_ifs
  · exact List.cons_ne_nil _ _
  · exact Json.natDigits_ne_nil n

namespace Scaled

variable (negative : Bool) (s : Scaled)

/-- Style `f` for an exponent below zero. -/
def below : Number where
  negative := negative
  whole := [0]
  fraction := stripZeros (List.replicate (-s.exponent - 1).toNat 0 ++ s.first :: s.rest)
  exponent := none
  nonempty := List.cons_ne_nil 0 []
  canonical _ := rfl

/-- Style `f` for other exponents. -/
def fixed : Number where
  negative := negative
  whole := s.first :: s.rest.take s.exponent.toNat
  fraction := stripZeros (s.rest.drop s.exponent.toNat)
  exponent := none
  nonempty := List.cons_ne_nil _ _
  canonical leading := absurd (Option.some.inj leading) s.nonzero

/-- Style `e`. -/
def scientific : Number where
  negative := negative
  whole := [s.first]
  fraction := stripZeros s.rest
  exponent := some
    { capital := false
      sign := some (decide (s.exponent < 0))
      digits := exponentDigits s.exponent.natAbs
      nonempty := exponentDigits_ne_nil _ }
  nonempty := List.cons_ne_nil _ _
  canonical leading := absurd (Option.some.inj leading) s.nonzero

/-- `%g`, for as many digits as there are. -/
def general : Number :=
  if -4 ≤ s.exponent ∧ s.exponent ≤ s.rest.length then
    if s.exponent < 0 then s.below negative else s.fixed negative
  else s.scientific negative

theorem decimal_eq {whole fraction : List Digit} {exponent : ℤ}
    (digits : digitsValue (whole ++ fraction) = digitsValue (s.first :: s.rest))
    (place : exponent - fraction.length = s.exponent - s.rest.length) :
    Number.decimal negative whole fraction exponent = signFactor negative * s.value := by
  rw [Number.decimal, signFactor, value, digits, ← place, zpow_sub₀ (by norm_num), zpow_natCast]
  ring

theorem value_below (small : s.exponent < 0) :
    (s.below negative).value = signFactor negative * s.value := by
  rw [Number.value, below]
  dsimp only [Option.elim_none]
  rw [decimal_stripZeros]
  refine s.decimal_eq negative ?_ ?_
  · have zeros : [0] ++ List.replicate (-s.exponent - 1).toNat (0 : Digit) =
        List.replicate ((-s.exponent - 1).toNat + 1) 0 := List.replicate_succ.symm
    rw [← List.append_assoc, Json.digitsValue_append, zeros, digitsValue_replicate, zero_mul,
      zero_add]
  · rw [List.length_append, List.length_replicate, List.length_cons]
    push_cast
    rw [Int.toNat_of_nonneg (by omega)]
    ring

theorem value_fixed (nonneg : 0 ≤ s.exponent) (within : s.exponent ≤ s.rest.length) :
    (s.fixed negative).value = signFactor negative * s.value := by
  rw [Number.value, fixed]
  dsimp only [Option.elim_none]
  rw [decimal_stripZeros]
  refine s.decimal_eq negative ?_ ?_
  · rw [List.cons_append, List.take_append_drop]
  · rw [List.length_drop]
    omega

theorem value_scientific : (s.scientific negative).value = signFactor negative * s.value := by
  have exponent : (s.scientific negative).exponent.elim 0 Exponent.value = s.exponent := by
    rw [scientific]
    dsimp only [Option.elim_some]
    rw [Exponent.value, digitsValue_exponentDigits]
    by_cases small : s.exponent < 0
    · rw [if_pos (by simpa using small)]
      omega
    · rw [if_neg (by simpa using small)]
      omega
  rw [Number.value, exponent, scientific]
  dsimp only
  rw [decimal_stripZeros]
  exact s.decimal_eq negative rfl rfl

theorem value_general : (s.general negative).value = signFactor negative * s.value := by
  unfold general
  split_ifs with layout small
  · exact s.value_below negative small
  · exact s.value_fixed negative (not_lt.mp small) layout.2
  · exact s.value_scientific negative

end Scaled

/-! ## `print_number` -/

/-- `%g` with so many digits behind the first. -/
def formatG (places : ℕ) (d : Double) : Number :=
  if nonzero : d ≠ 0 then (scaled places d nonzero).general (decide (d < 0)) else Number.ofInt 0

/-- What `%g` writes is the number of these digits. -/
theorem value_formatG (places : ℕ) (d : Double) :
    (formatG places d).value = significant (places + 1) d := by
  unfold formatG
  split_ifs with nonzero
  · rw [Scaled.value_general, value_scaled]
  · obtain rfl : d = 0 := not_not.mp nonzero
    have zero := significant_intCast (show |(0 : ℤ)| < 10 ^ (places + 1) by positivity)
    rw [Number.value_ofInt]
    exact_mod_cast zero.symm

/-- `compare_double` of what is read and the number; an infinity differs from it by an
infinity, which is within the bound. -/
def Agrees (d : Double) : Binary64.Value → Prop
  | .finite test => compareDouble test d
  | .infinite _ => True

instance (d : Double) : (reading : Binary64.Value) → Decidable (Agrees d reading)
  | .finite test => inferInstanceAs (Decidable (compareDouble test d))
  | .infinite _ => inferInstanceAs (Decidable True)

/-- Whether fifteen digits are enough. -/
abbrev Recovers (d : Double) : Prop := Agrees d (Binary64.round (significant 15 d))

/-- The number that is formatted: with fifteen digits, or else with seventeen. -/
def digitsNumber (d : Double) : Number := if Recovers d then formatG 14 d else formatG 16 d

/-- How `print_number` writes a number that is no 32-bit integer. -/
def formatDouble (d : Double) : Bytes := (digitsNumber d).text

/-- The number as `print_number` writes it. -/
def numberText (d : Double) : Number :=
  if d = valueint d then Number.ofInt (valueint d) else digitsNumber d

/-- The number that is written. -/
def shownNumber (d : Double) : ℚ :=
  if d = valueint d then d
  else if Recovers d then significant 15 d else significant 17 d

theorem value_numberText (d : Double) : (numberText d).value = shownNumber d := by
  unfold numberText digitsNumber shownNumber
  split_ifs with whole recovers
  · rw [Number.value_ofInt, ← whole]
  · exact value_formatG 14 d
  · exact value_formatG 16 d

/-- An integer of fifteen digits is written as it is. -/
theorem shownNumber_intCast {n : ℤ} (small : |n| < 10 ^ 15) : shownNumber n = n := by
  rw [shownNumber]
  split_ifs
  · rfl
  · exact significant_intCast small
  · exact significant_intCast (small.trans (by norm_num))

/-! ## Reading back -/

/-- No digit is off by more than half of the last place. -/
theorem abs_significant_sub_le (digits : ℕ) (d : Double) :
    |significant digits d - d| ≤ lastPlace digits d / 2 := by
  have place := lastPlace_pos digits d
  have near := Binary64.isNearest_roundEven (d / lastPlace digits d)
  have half : |d / lastPlace digits d - roundEven (d / lastPlace digits d)| ≤ 1 / 2 :=
    near.elim le_of_lt fun tie => tie.1.le
  have scaled : significant digits d - d =
      -((d / lastPlace digits d - roundEven (d / lastPlace digits d)) * lastPlace digits d) := by
    rw [significant, sub_mul, div_mul_cancel₀ _ place.ne']
    ring
  rw [scaled, abs_neg, abs_mul, abs_of_pos place]
  linarith [mul_le_mul_of_nonneg_right half place.le]

/-- Seventeen digits give a binary number back. -/
theorem nearest_significant {d : Double} (binary : nearest d = d) :
    nearest (significant 17 d) = d := by
  rcases eq_or_ne d 0 with rfl | nonzero
  · have zero := significant_intCast (show |(0 : ℤ)| < 10 ^ 17 by norm_num)
    rw [Int.cast_zero] at zero
    rw [zero, Binary64.nearest_zero]
  · have positive := abs_pos.mpr nonzero
    have low : (10 : ℚ) ^ Int.log 10 |d| ≤ |d| := Int.zpow_log_le_self (by decide) positive
    have place : lastPlace 17 d = 10 ^ Int.log 10 |d| / 10 ^ 16 := by
      rw [lastPlace, ← zpow_natCast, ← zpow_sub₀ (by norm_num)]
      congr 1
      push_cast
      ring
    refine Binary64.nearest_eq_of_near binary ((abs_significant_sub_le 17 d).trans_lt ?_)
    rw [place]
    -- the digits are finer than half a unit of the last binary place
    linarith

theorem compareDouble_self (d : Double) : compareDouble d d := by
  have within : (0 : ℚ) ≤ max |d| |d| * 2 ^ (-52 : ℤ) := by positivity
  rw [compareDouble, sub_self, abs_zero, Binary64.nearest_zero]
  have zero : ((0 : ℤ) : ℚ) * Binary64.unit (max |d| |d| * 2 ^ (-52 : ℤ)) = 0 := by
    rw [Int.cast_zero, zero_mul]
  exact zero ▸ Binary64.le_nearest (zero.le.trans within)

/-- **What is printed is read back**: whatever finite number a reader that rounds to nearest
gets of the text, `compare_double` takes it for the number that was printed. -/
theorem compareDouble_of_round {d : Double} (binary : nearest d = d) {reading : ℚ}
    (read : Binary64.round (numberText d).value = .finite reading) : compareDouble reading d := by
  have rounded (x : ℚ) (finite : Binary64.round x = .finite reading) : nearest x = reading := by
    unfold Binary64.round at finite
    split_ifs at finite
    exact Binary64.Value.finite.inj finite
  rw [value_numberText, shownNumber] at read
  split_ifs at read with whole recovers
  · rw [← rounded d read, binary]
    exact compareDouble_self d
  · unfold Recovers at recovers
    rwa [read] at recovers
  · rw [← rounded _ read, nearest_significant binary]
    exact compareDouble_self d

/-- The sum of a tenth and two tenths is printed as 0.3, which is another number. -/
theorem compareDouble_three_tenths :
    compareDouble (5404319552844595 / 2 ^ 54) (5404319552844596 / 2 ^ 54) :=
  compareDouble_of_round (by decide +kernel) (by decide +kernel)

/-! ## The number buffer -/

theorem length_stripZeros_le (digits : List Digit) : (stripZeros digits).length ≤ digits.length :=
  (List.rdropWhile_prefix _ _).length_le

theorem length_exponentDigits_le {n : ℕ} (small : n < 1000) :
    (exponentDigits n).length ≤ 3 := by
  unfold exponentDigits
  split_ifs
  · exact Nat.le_succ 2
  · exact Json.length_natDigits_le (by decide) small

/-- A number takes a byte for each digit, the sign and the point, and its exponent. -/
theorem length_text_le (n : Number) :
    n.text.length ≤ n.whole.length + n.fraction.length + n.exponentText.length + 2 := by
  have sign : n.signText.length ≤ 1 := by
    unfold Number.signText
    split_ifs <;> simp
  have fraction : n.fractionText.length ≤ n.fraction.length + 1 := by
    unfold Number.fractionText
    split_ifs with empty
    · exact Nat.zero_le _
    · simp [Json.digitsText]
  have whole : (Json.digitsText n.whole).length = n.whole.length := List.length_map _
  simp only [Number.text, List.length_append, whole]
  omega

namespace Scaled

variable (negative : Bool) (s : Scaled)

theorem length_below_le (small : -4 ≤ s.exponent) :
    (s.below negative).text.length ≤ s.rest.length + 7 := by
  have layout := length_text_le (s.below negative)
  have fraction := length_stripZeros_le
    (List.replicate (-s.exponent - 1).toNat 0 ++ s.first :: s.rest)
  rw [List.length_append, List.length_replicate, List.length_cons] at fraction
  have exponent : (s.below negative).exponentText.length = 0 := rfl
  have whole : (s.below negative).whole.length = 1 := rfl
  have digits : (s.below negative).fraction.length =
      (stripZeros (List.replicate (-s.exponent - 1).toNat 0 ++ s.first :: s.rest)).length := rfl
  omega

theorem length_fixed_le : (s.fixed negative).text.length ≤ s.rest.length + 3 := by
  have layout := length_text_le (s.fixed negative)
  have fraction := length_stripZeros_le (s.rest.drop s.exponent.toNat)
  rw [List.length_drop] at fraction
  have exponent : (s.fixed negative).exponentText.length = 0 := rfl
  have whole : (s.fixed negative).whole.length = min s.exponent.toNat s.rest.length + 1 := by
    rw [fixed, List.length_cons, List.length_take]
  have digits : (s.fixed negative).fraction.length =
      (stripZeros (s.rest.drop s.exponent.toNat)).length := rfl
  omega

theorem length_scientific_le (small : s.exponent.natAbs < 1000) :
    (s.scientific negative).text.length ≤ s.rest.length + 8 := by
  have layout := length_text_le (s.scientific negative)
  have fraction := length_stripZeros_le s.rest
  have three := length_exponentDigits_le small
  have exponent : (s.scientific negative).exponentText.length =
      (exponentDigits s.exponent.natAbs).length + 2 := by
    by_cases below : s.exponent < 0 <;>
      simp [scientific, Number.exponentText, Exponent.text, Exponent.signText, Json.digitsText,
        below]
  have whole : (s.scientific negative).whole.length = 1 := rfl
  have digits : (s.scientific negative).fraction.length = (stripZeros s.rest).length := rfl
  omega

theorem length_general_le (small : s.exponent.natAbs < 1000) :
    (s.general negative).text.length ≤ s.rest.length + 8 := by
  unfold general
  split_ifs with layout below
  · exact (s.length_below_le negative layout.1).trans (by omega)
  · exact (s.length_fixed_le negative).trans (by omega)
  · exact s.length_scientific_le negative small

end Scaled

/-- A number that a `double` holds. -/
def IsDouble (d : Double) : Prop := Binary64.round d = .finite d

instance : DecidablePred IsDouble :=
  fun d => inferInstanceAs (Decidable (Binary64.round d = .finite d))

theorem IsDouble.nearest_eq {d : Double} (double : IsDouble d) : nearest d = d := by
  unfold IsDouble Binary64.round at double
  split_ifs at double
  exact Binary64.Value.finite.inj double

theorem IsDouble.abs_lt {d : Double} (double : IsDouble d) : |d| < 2 ^ 1024 := by
  have same := double.nearest_eq
  unfold IsDouble Binary64.round at double
  split_ifs at double with large
  rw [same] at large
  exact not_le.mp large

/-- The smallest number that is not zero. -/
theorem IsDouble.le_abs {d : Double} (double : IsDouble d) (nonzero : d ≠ 0) :
    (2 : ℚ) ^ (-1074 : ℤ) ≤ |d| := by
  have binary : nearest |d| = |d| := by
    rcases abs_choice d with same | same
    · rw [same, double.nearest_eq]
    · rw [same, Binary64.nearest_neg, double.nearest_eq]
  obtain ⟨n, multiple, least, -⟩ := Binary64.exists_digits (abs_pos.mpr nonzero) binary
  have one : (1 : ℚ) ≤ n := by exact_mod_cast least
  calc (2 : ℚ) ^ (-1074 : ℤ) ≤ Binary64.unit |d| :=
        zpow_le_zpow_right₀ one_le_two (le_max_right _ _)
    _ ≤ n * Binary64.unit |d| := le_mul_of_one_le_left (Binary64.unit_pos _).le one
    _ = |d| := multiple.symm

/-- The exponents that are written. -/
theorem IsDouble.exponent {d : Double} (double : IsDouble d) (nonzero : d ≠ 0) (places : ℕ) :
    (roundedDigits places d).2.natAbs < 1000 := by
  have positive := abs_pos.mpr nonzero
  have low : -324 ≤ Int.log 10 |d| := by
    refine (Int.zpow_le_iff_le_log (by decide) positive).mp ?_
    have power : 2 ^ 1074 ≤ 10 ^ 324 := by decide +kernel
    refine le_trans ?_ (double.le_abs nonzero)
    rw [zpow_neg, zpow_neg, inv_le_inv₀ (by positivity) (by positivity)]
    exact_mod_cast power
  have high : Int.log 10 |d| < 309 := by
    refine (Int.lt_zpow_iff_log_lt (by decide) positive).mp ?_
    have power : 2 ^ 1024 < 10 ^ 309 := by decide +kernel
    refine double.abs_lt.trans ?_
    exact_mod_cast power
  rw [roundedDigits]
  split_ifs <;> dsimp only <;> omega

theorem length_formatG_le {d : Double} (double : IsDouble d) (places : ℕ) :
    (formatG places d).text.length ≤ places + 8 := by
  unfold formatG
  split_ifs with nonzero
  · have rest : (scaled places d nonzero).rest.length = places := length_fixedDigits places _
    have general := (scaled places d nonzero).length_general_le (decide (d < 0))
      (double.exponent nonzero places)
    rwa [rest] at general
  · have zero : (Number.ofInt 0).text.length = 1 := by decide
    omega

theorem natAbs_valueint_lt {d : Double} (whole : d = valueint d) :
    (valueint d).natAbs < 10 ^ 10 := by
  unfold valueint at whole ⊢
  split_ifs at whole ⊢ with high low
  · decide
  · decide
  · rw [whole] at high low
    have above : ¬ (truncate d : ℤ) ≥ 2147483647 := by exact_mod_cast high
    have below : ¬ (truncate d : ℤ) ≤ -2147483648 := by exact_mod_cast low
    omega

/-- **The number buffer is large enough**: `print_number` writes 24 characters at most to
its 26 bytes, whatever the number. -/
theorem length_numberText_le {d : Double} (double : IsDouble d) :
    (numberText d).text.length ≤ 24 := by
  unfold numberText digitsNumber
  split_ifs with whole recovers
  · have small : (valueint d).natAbs < 10 ^ 10 := natAbs_valueint_lt whole
    exact (Number.length_text_ofInt_le (by decide) small).trans (by decide)
  · exact (length_formatG_le double 14).trans (by decide)
  · exact length_formatG_le double 16

end CapacityAgent.CJson
