/-
# cJSON reads numbers as they are written

`strtod` on the text of a JSON number takes all of it and rounds the decimal it
denotes. `parse_number` copies at most 63 bytes, so it does the same for numbers no
longer than that.
-/

import CapacityAgent.CJson.Parse
import CapacityAgent.Library.Search

namespace CapacityAgent.CJson

open Json (Digit Number Exponent digitsText digitsValue)

/-! ## Digits -/

theorem isDigit_toByte (d : Digit) : isDigit d.toByte = true := by
  revert d
  decide

theorem digitsOf_digitsText (digits : List Digit) : digitsOf (digitsText digits) = digits := by
  have back : ∀ d : Digit, Fin.ofNat 10 (d.toByte.toNat - 48) = d := by decide
  rw [digitsOf, digitsText, List.map_map]
  exact (List.map_congr_left fun d _ => back d).trans (List.map_id _)

theorem digitsText_eq_nil {digits : List Digit} : digitsText digits = [] ↔ digits = [] :=
  List.map_eq_nil_iff

theorem isDigit_of_mem_digitsText {digits : List Digit} {b : UInt8}
    (member : b ∈ digitsText digits) : isDigit b = true := by
  obtain ⟨d, -, rfl⟩ := List.mem_map.mp member
  exact isDigit_toByte d

/-- What follows a run of digits: nothing, or something else. -/
def Undigital (rest : Bytes) : Prop := ∀ b ∈ rest.head?, isDigit b = false

theorem takeWhile_digitsText (digits : List Digit) {rest : Bytes} (ends : Undigital rest) :
    (digitsText digits ++ rest).takeWhile isDigit = digitsText digits :=
  Search.takeWhile_run (fun _ => isDigit_of_mem_digitsText) ends

theorem dropWhile_digitsText (digits : List Digit) {rest : Bytes} (ends : Undigital rest) :
    (digitsText digits ++ rest).dropWhile isDigit = rest :=
  Search.dropWhile_run (fun _ => isDigit_of_mem_digitsText) ends

/-! ## The parts of a number -/

theorem takeSign_digitsText {digits : List Digit} (nonempty : digits ≠ []) (rest : Bytes) :
    takeSign (digitsText digits ++ rest) = (false, digitsText digits ++ rest) := by
  obtain ⟨d, later, rfl⟩ := List.exists_cons_of_ne_nil nonempty
  have notSign : ∀ d : Digit, d.toByte ≠ byte '-' ∧ d.toByte ≠ byte '+' := by decide
  simp [digitsText, takeSign, notSign d]

theorem takeSign_signText (n : Number) (rest : Bytes) :
    takeSign (n.signText ++ (digitsText n.whole ++ rest)) =
      (n.negative, digitsText n.whole ++ rest) := by
  unfold Number.signText
  cases negative : n.negative with
  | true => rfl
  | false => exact takeSign_digitsText n.nonempty rest

theorem undigital_exponentText (n : Number) : Undigital n.exponentText := by
  intro b first
  cases exponent : n.exponent with
  | none => simp [Number.exponentText, exponent] at first
  | some exponent' =>
    simp only [Number.exponentText, exponent, Option.elim_some, Exponent.text, List.cons_append,
      List.head?_cons, Option.mem_some_iff] at first
    rw [← first]
    cases exponent'.capital <;> decide

theorem takeFraction_fractionText (n : Number) :
    takeFraction (n.fractionText ++ n.exponentText) =
      (digitsText n.fraction, n.exponentText) := by
  have ends := undigital_exponentText n
  unfold Number.fractionText
  by_cases whole : n.fraction = []
  · -- the exponent does not start with a point
    rw [if_pos whole, List.nil_append, whole]
    cases exponent : n.exponent with
    | none => simp [Number.exponentText, exponent, takeFraction, digitsText]
    | some exponent' =>
      have notPoint : byte (if exponent'.capital then 'E' else 'e') ≠ byte '.' := by
        cases exponent'.capital <;> decide
      simp [Number.exponentText, exponent, takeFraction, Exponent.text, notPoint, digitsText]
  · rw [if_neg whole, List.cons_append, takeFraction, if_pos rfl,
      takeWhile_digitsText _ ends, dropWhile_digitsText _ ends]

theorem takeSign_exponent (exponent : Exponent) :
    takeSign (exponent.signText ++ digitsText exponent.digits) =
      (decide (exponent.sign = some true), digitsText exponent.digits) := by
  unfold Exponent.signText
  match signed : exponent.sign with
  | none => simpa using takeSign_digitsText exponent.nonempty []
  | some false => rfl
  | some true => rfl

theorem takeExponent_exponentText (n : Number) :
    takeExponent n.exponentText = (n.exponent.elim 0 Exponent.value, []) := by
  cases exponent : n.exponent with
  | none => simp [Number.exponentText, exponent, takeExponent]
  | some exponent' =>
    have letter : byte (if exponent'.capital then 'E' else 'e') = byte 'e' ∨
        byte (if exponent'.capital then 'E' else 'e') = byte 'E' := by
      cases exponent'.capital <;> decide
    have ends : Undigital [] := fun b first => absurd first (by simp)
    have taken := takeWhile_digitsText exponent'.digits ends
    have dropped := dropWhile_digitsText exponent'.digits ends
    rw [List.append_nil] at taken dropped
    have digits : digitsText exponent'.digits ≠ [] :=
      fun empty => exponent'.nonempty (digitsText_eq_nil.mp empty)
    simp only [Number.exponentText, exponent, Option.elim_some, Exponent.text, List.cons_append,
      takeExponent, takeSign_exponent, taken, dropped, digitsOf_digitsText, letter, digits, ne_eq,
      not_false_eq_true, and_self, if_true, decide_eq_true_eq]
    rfl

/-! ## Numbers -/

/-- `strtod` reads the text of a number. -/
theorem strtod_text (n : Number) : strtod n.text = some (Binary64.held n.value, []) := by
  have ends : Undigital (n.fractionText ++ n.exponentText) := by
    unfold Number.fractionText
    split_ifs with whole
    · exact undigital_exponentText n
    · intro b first
      obtain rfl : byte '.' = b := Option.some.inj first
      decide
  have digits : digitsText n.whole ≠ [] := fun empty => n.nonempty (digitsText_eq_nil.mp empty)
  simp only [strtod, Number.text, takeSign_signText, takeWhile_digitsText _ ends,
    dropWhile_digitsText _ ends, takeFraction_fractionText, takeExponent_exponentText,
    digitsOf_digitsText, digits, false_and, if_false]
  rfl

theorem isNumberByte_of_isDigit {b : UInt8} (digit : isDigit b = true) :
    isNumberByte b = true := by
  simp [isNumberByte, digit]

theorem isNumberByte_of_mem_number {n : Number} {b : UInt8} (member : b ∈ n.text) :
    isNumberByte b = true := by
  have marks : ∀ b ∈ lit "+-.eE", isNumberByte b = true := by decide +kernel
  exact n.forall_mem_text (fun d => isNumberByte_of_isDigit (isDigit_toByte d)) marks b member

/-- A byte that a number does not go on with. -/
def Delimits (rest : Bytes) : Prop := ∀ b ∈ rest.head?, isNumberByte b = false

/-- `parse_number` reads the text of a number that fits its buffer. -/
theorem parseNumber_text {n : Number} (short : n.text.length ≤ 63) {rest : Bytes}
    (ends : Delimits rest) :
    parseNumber (n.text ++ rest) = some (Binary64.held n.value, rest) := by
  -- what is copied ends with the number, whether the buffer is full or not
  have stops : (rest.take (63 - n.text.length)).takeWhile isNumberByte = [] := by
    cases rest with
    | nil => simp
    | cons b more =>
      cases 63 - n.text.length with
      | zero => rfl
      | succ room => simp [ends b rfl]
  have copied : ((n.text ++ rest).take 63).takeWhile isNumberByte = n.text := by
    rw [List.take_append, List.take_of_length_le short,
      List.takeWhile_append_of_pos fun b => isNumberByte_of_mem_number, stops,
      List.append_nil]
  rw [parseNumber, copied]
  simp only [strtod_text, List.length_nil, Nat.sub_zero, List.drop_left]

/-- How the text of a number begins. -/
theorem exists_number_text_eq_cons (n : Number) :
    ∃ b more, n.text = b :: more ∧ (b = byte '-' ∨ isDigit b = true) := by
  obtain ⟨d, later, whole⟩ := List.exists_cons_of_ne_nil n.nonempty
  cases negative : n.negative with
  | true =>
    exact ⟨byte '-', digitsText n.whole ++ (n.fractionText ++ n.exponentText),
      by simp [Number.text, Number.signText, negative], .inl rfl⟩
  | false =>
    refine ⟨d.toByte, digitsText later ++ (n.fractionText ++ n.exponentText), ?_,
      .inr (isDigit_toByte d)⟩
    simp [Number.text, Number.signText, negative, whole, digitsText]

end CapacityAgent.CJson
