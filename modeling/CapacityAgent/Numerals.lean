/-
# Numbers as text and back

What `std::to_string` writes, the conversions read back whole.
-/

import CapacityAgent.Text
import CapacityAgent.Library.Strtol

namespace CapacityAgent

open Strtol

theorem lt_of_mem_decimalDigits {n d : ℕ} (member : d ∈ decimalDigits n) : d < 10 := by
  unfold decimalDigits at member
  split_ifs at member with zero
  · obtain rfl := List.mem_singleton.mp member
    decide
  · exact Nat.digits_lt_base (by decide) (List.mem_reverse.mp member)

theorem ofDigits_decimalDigits (n : ℕ) : Nat.ofDigits 10 (decimalDigits n).reverse = n := by
  unfold decimalDigits
  split_ifs with zero
  · rw [zero]
    rfl
  · rw [List.reverse_reverse, Nat.ofDigits_digits]

theorem decimalDigits_ne_nil (n : ℕ) : decimalDigits n ≠ [] := by
  unfold decimalDigits
  split_ifs with zero
  · exact List.cons_ne_nil _ _
  · rw [Ne, List.reverse_eq_nil_iff, Nat.digits_eq_nil_iff_eq_zero]
    exact zero

theorem toNat_digitByte {d : ℕ} (small : d < 10) : (digitByte d).toNat = 48 + d := by
  rw [digitByte, show (48 + d).toUInt8.toNat = (48 + d) % 256 from UInt8.toNat_ofNat',
    Nat.mod_eq_of_lt (by omega)]

theorem isDigit_digitByte {d : ℕ} (small : d < 10) : isDigit (digitByte d) = true := by
  simp only [isDigit, Bool.and_eq_true, decide_eq_true_eq, UInt8.le_iff_toNat_le,
    toNat_digitByte small]
  exact ⟨Nat.le_add_right 48 d, by
    change 48 + d ≤ 57
    omega⟩

/-- The digits written for a natural number. -/
theorem digits_decimal (n : ℕ) :
    ((decimalDigits n).map digitByte).all isDigit = true ∧
      value ((decimalDigits n).map digitByte) = n := by
  constructor
  · refine List.all_eq_true.mpr fun b member => ?_
    obtain ⟨d, listed, rfl⟩ := List.mem_map.mp member
    exact isDigit_digitByte (lt_of_mem_decimalDigits listed)
  · have shown : ∀ d ∈ decimalDigits n, digitValue (digitByte d) = d := by
      intro d listed
      rw [digitValue, toNat_digitByte (lt_of_mem_decimalDigits listed)]
      omega
    rw [value_map shown, ofDigits_decimalDigits]

/-- A number's text is a minus and digits at most. -/
theorem notMem_decimal {b : UInt8} (noDigit : isDigit b = false) (noMinus : b ≠ byte '-') (n : ℤ) :
    b ∉ decimal n := by
  have digitsOnly : ∀ k : ℕ, b ∉ (decimalDigits k).map digitByte := fun k member =>
    absurd (List.all_eq_true.mp (digits_decimal k).1 b member) (by simp [noDigit])
  cases n with
  | ofNat k => exact digitsOnly k
  | negSucc k =>
    intro member
    rcases List.mem_cons.mp member with minus | digit
    · exact noMinus minus
    · exact digitsOnly (k + 1) digit

/-- A number's text has no sign but the one written. -/
theorem sign_digits {n : ℕ} :
    sign ((decimalDigits n).map digitByte) = (1, (decimalDigits n).map digitByte) := by
  obtain ⟨first, rest, digits⟩ := List.exists_cons_of_ne_nil (decimalDigits_ne_nil n)
  have small : first < 10 := lt_of_mem_decimalDigits (digits ▸ List.mem_cons_self)
  have code := toNat_digitByte small
  rw [digits, List.map_cons, sign, if_neg, if_neg]
  · intro plus
    rw [plus] at code
    exact absurd code (by change 43 ≠ 48 + first; omega)
  · intro minus
    rw [minus] at code
    exact absurd code (by change 45 ≠ 48 + first; omega)

/-- The text of a number denotes the number. -/
theorem whole_decimal (n : ℤ) : whole (decimal n) = some n := by
  cases n with
  | ofNat n =>
    obtain ⟨digits, same⟩ := digits_decimal n
    have nonempty : (decimalDigits n).map digitByte ≠ [] := by
      simpa using decimalDigits_ne_nil n
    simp only [decimal, whole, sign_digits, if_pos (And.intro nonempty digits), same, one_mul]
    rfl
  | negSucc n =>
    obtain ⟨digits, same⟩ := digits_decimal (n + 1)
    have nonempty : (decimalDigits (n + 1)).map digitByte ≠ [] := by
      simpa using decimalDigits_ne_nil (n + 1)
    have minus : sign (byte '-' :: (decimalDigits (n + 1)).map digitByte) =
        (-1, (decimalDigits (n + 1)).map digitByte) := by rw [sign, if_pos rfl]
    simp only [decimal, whole, minus, if_pos (And.intro nonempty digits), same, neg_one_mul]
    rfl

end CapacityAgent
