/-
# Integers from text

`strtol` in base ten and the conversions on top of it. They skip blanks, read a sign and
the digits that follow, and look at nothing after those. The integer that a text denotes
as a whole is a different matter: there the sign and the digits are all of it.
-/

import CapacityAgent.Library.Search
import CapacityAgent.Library.Signed
import CapacityAgent.Library.Utf8
import Mathlib.Data.Nat.Digits.Defs
import Mathlib.Data.List.TakeWhile

namespace Strtol

open Search Signed Utf8

/-! ## Digits -/

/-- `isspace` of the C locale. -/
def isSpace (b : UInt8) : Bool := b == byte ' ' || (byte '\t' ≤ b && b ≤ byte '\r')

/-- `isdigit`. -/
def isDigit (b : UInt8) : Bool := byte '0' ≤ b && b ≤ byte '9'

def digitValue (b : UInt8) : ℕ := b.toNat - 48

/-- The number of the digits, most significant first. -/
def value (digits : List UInt8) : ℕ := Nat.ofDigits 10 (digits.map digitValue).reverse

/-- The sign of the text, and what follows it. -/
def sign : List UInt8 → ℤ × List UInt8
  | [] => (1, [])
  | b :: rest =>
    if b = byte '-' then (-1, rest)
    else if b = byte '+' then (1, rest)
    else (1, b :: rest)

/-- The integer at the start of the text, after blanks; what follows its digits is not
looked at. -/
def leading (s : List UInt8) : Option ℤ :=
  let signed := sign (s.dropWhile isSpace)
  let digits := signed.2.takeWhile isDigit
  if digits = [] then none else some (signed.1 * value digits)

/-- The integer that the whole text denotes in decimal. -/
def whole (s : List UInt8) : Option ℤ :=
  let signed := sign s
  if signed.2 ≠ [] ∧ signed.2.all isDigit = true then some (signed.1 * value signed.2) else none

/-! ## Conversions -/

/-- The exceptions of a conversion. -/
inductive Thrown
  | invalidArgument
  | outOfRange
  deriving DecidableEq

/-- `std::stoi` and `std::stoll`, by the width of their type. -/
def convert (bits : ℕ) (s : List UInt8) : Except Thrown ℤ :=
  match leading s with
  | none => .error .invalidArgument
  | some n => if Fits bits n then .ok n else .error .outOfRange

/-- The integer of the type that the whole text denotes, if there is one. -/
def exact (bits : ℕ) (s : List UInt8) : Option ℤ := (whole s).filter fun n => Fits bits n

theorem convert_eq_ok_iff {bits : ℕ} {s : List UInt8} {n : ℤ} :
    convert bits s = .ok n ↔ leading s = some n ∧ Fits bits n := by
  unfold convert
  cases leading s with
  | none => simp
  | some m =>
    by_cases fits : Fits bits m
    · simp only [if_pos fits, Except.ok.injEq, Option.some.injEq]
      exact ⟨fun same => ⟨same, same ▸ fits⟩, And.left⟩
    · simp only [if_neg fits, reduceCtorEq, Option.some.injEq, false_iff, not_and]
      exact fun same here => fits (same ▸ here)

/-! ## Whole texts -/

theorem isSpace_of_isDigit {b : UInt8} (digit : isDigit b = true) : isSpace b = false := by
  have same : ∀ c : UInt8, c ≤ b ↔ c.toNat ≤ b.toNat := fun c => UInt8.le_iff_toNat_le
  have same' : ∀ c : UInt8, b ≤ c ↔ b.toNat ≤ c.toNat := fun c => UInt8.le_iff_toNat_le
  have low : (byte '0').toNat ≤ b.toNat := by
    simp only [isDigit, Bool.and_eq_true, decide_eq_true_eq] at digit
    exact (same _).mp digit.1
  have above : ¬ b.toNat ≤ (byte '\r').toNat := by
    have carriage : (byte '\r').toNat < (byte '0').toNat := by decide
    omega
  have notBlank : b ≠ byte ' ' := by
    rintro rfl
    exact absurd low (by decide)
  simp only [isSpace, beq_eq_false_iff_ne.mpr notBlank, Bool.false_or, Bool.and_eq_false_iff,
    decide_eq_false_iff_not, same']
  exact .inr above

/-- What a text that denotes an integer begins with. -/
theorem exists_cons_of_whole {s : List UInt8} {n : ℤ} (denotes : whole s = some n) :
    ((sign s).2 ≠ [] ∧ (sign s).2.all isDigit = true) ∧ (sign s).1 * value (sign s).2 = n ∧
      ∃ b rest, s = b :: rest ∧ (b = byte '-' ∨ b = byte '+' ∨ isDigit b = true) := by
  dsimp only [whole] at denotes
  split_ifs at denotes with digits
  refine ⟨digits, Option.some.inj denotes, ?_⟩
  cases s with
  | nil => exact absurd rfl digits.1
  | cons b rest =>
    refine ⟨b, rest, rfl, ?_⟩
    by_cases minus : b = byte '-'
    · exact .inl minus
    · by_cases plus : b = byte '+'
      · exact .inr (.inl plus)
      · -- without a sign the first byte is a digit
        rw [sign, if_neg minus, if_neg plus] at digits
        exact .inr (.inr (List.all_eq_true.mp digits.2 b List.mem_cons_self))

theorem dropWhile_isSpace_of_whole {s : List UInt8} {n : ℤ} (denotes : whole s = some n) :
    s.dropWhile isSpace = s := by
  obtain ⟨-, -, b, rest, rfl, first⟩ := exists_cons_of_whole denotes
  refine List.dropWhile_cons_of_neg (Bool.eq_false_iff.mp ?_)
  rcases first with rfl | rfl | digit
  · decide
  · decide
  · exact isSpace_of_isDigit digit

/-- The integer at the start of a text that denotes one is that. -/
theorem leading_of_whole {s : List UInt8} {n : ℤ} (denotes : whole s = some n) :
    leading s = some n := by
  obtain ⟨⟨nonempty, digits⟩, same, -⟩ := exists_cons_of_whole denotes
  have all : (sign s).2.takeWhile isDigit = (sign s).2 :=
    List.takeWhile_eq_self_iff.mpr (List.all_eq_true.mp digits)
  unfold leading
  simp only [dropWhile_isSpace_of_whole denotes, all, if_neg nonempty, same]

theorem convert_of_exact {bits : ℕ} {s : List UInt8} {n : ℤ} (denotes : exact bits s = some n) :
    convert bits s = .ok n := by
  obtain ⟨denotes, fits⟩ := Option.filter_eq_some_iff.mp denotes
  exact convert_eq_ok_iff.mpr ⟨leading_of_whole denotes, of_decide_eq_true fits⟩

/-! ## What is not looked at -/

/-- Neither a blank nor part of a number. -/
def Ends (b : UInt8) : Prop :=
  isSpace b = false ∧ isDigit b = false ∧ b ≠ byte '-' ∧ b ≠ byte '+'

theorem sign_append_cons {b : UInt8} (minus : b ≠ byte '-') (plus : b ≠ byte '+')
    (s t : List UInt8) : sign (s ++ b :: t) = ((sign s).1, (sign s).2 ++ b :: t) := by
  cases s with
  | nil =>
    rw [List.nil_append]
    exact (if_neg minus).trans (if_neg plus)
  | cons c s =>
    rw [List.cons_append, sign, sign]
    split_ifs <;> rfl

/-- The integer at the start of a text does not depend on what stands behind such a byte. -/
theorem leading_append_cons {b : UInt8} (ends : Ends b) (s t : List UInt8) :
    leading (s ++ b :: t) = leading s := by
  obtain ⟨noSpace, noDigit, minus, plus⟩ := ends
  unfold leading
  rw [dropWhile_append_cons noSpace, sign_append_cons minus plus]
  dsimp only
  rw [takeWhile_append_cons noDigit]

theorem leading_takeWhile {b : UInt8} (ends : Ends b) (s : List UInt8) :
    leading (s.takeWhile (· != b)) = leading s := by
  by_cases occurs : b ∈ s
  · obtain ⟨before, after, rfl, absent⟩ := List.eq_append_cons_of_mem occurs
    rw [takeWhile_bne_append_cons, takeWhile_bne_of_notMem absent, leading_append_cons ends]
  · rw [takeWhile_bne_of_notMem occurs]

/-! ## Digits of a number -/

theorem value_map {digits : List ℕ} {byteOf : ℕ → UInt8}
    (shown : ∀ d ∈ digits, digitValue (byteOf d) = d) :
    value (digits.map byteOf) = Nat.ofDigits 10 digits.reverse := by
  have same : (digits.map byteOf).map digitValue = digits := by
    rw [List.map_map]
    exact (List.map_congr_left shown).trans (List.map_id _)
  rw [value, same]

end Strtol
