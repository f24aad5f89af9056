/-
# JSON values and their compact text

Values, the numbers of the JSON grammar with the decimals they denote, and the
text of a value without white space. How a character of a string is written is
left to an `Encoder`, which may choose among the ways the grammar allows; the
theorems hold for all of them.
-/

import CapacityAgent.Library.Utf8
import Mathlib.Data.Nat.Digits.Lemmas
import Mathlib.Data.Rat.Defs
import Mathlib.Algebra.Order.Field.Rat
import Mathlib.Tactic.NormNum

namespace Json

open Utf8 (byte lit)

/-! ## Numbers -/

/-- A decimal digit. -/
abbrev Digit := Fin 10

instance neZero_ten : NeZero 10 := ⟨by decide⟩

def Digit.toByte (d : Digit) : UInt8 := (48 + d.val).toUInt8

/-- The bytes of a digit sequence. -/
def digitsText (digits : List Digit) : List UInt8 := digits.map Digit.toByte

/-- The number a digit sequence denotes. -/
def digitsValue (digits : List Digit) : ℕ := digits.foldl (fun n d => 10 * n + d.val) 0

/-- An exponent part, which has at least one digit. -/
structure Exponent where
  capital : Bool
  /-- The sign written, if any; `true` is minus. -/
  sign : Option Bool
  digits : List Digit
  nonempty : digits ≠ []

def Exponent.signText (exponent : Exponent) : List UInt8 :=
  match exponent.sign with
  | none => []
  | some false => [byte '+']
  | some true => [byte '-']

def Exponent.text (exponent : Exponent) : List UInt8 :=
  byte (if exponent.capital then 'E' else 'e') :: exponent.signText ++ digitsText exponent.digits

def Exponent.value (exponent : Exponent) : ℤ :=
  if exponent.sign = some true then -digitsValue exponent.digits else digitsValue exponent.digits

/-- A number as written; an empty fraction stands for none. -/
structure Number where
  negative : Bool
  whole : List Digit
  fraction : List Digit
  exponent : Option Exponent
  nonempty : whole ≠ []
  canonical : whole.head? = some 0 → whole = [0]

namespace Number

def signText (n : Number) : List UInt8 := if n.negative then [byte '-'] else []

def fractionText (n : Number) : List UInt8 :=
  if n.fraction = [] then [] else byte '.' :: digitsText n.fraction

def exponentText (n : Number) : List UInt8 := n.exponent.elim [] Exponent.text

def text (n : Number) : List UInt8 :=
  n.signText ++ (digitsText n.whole ++ (n.fractionText ++ n.exponentText))

/-- The decimal a sign, digits around a point and an exponent denote. -/
def decimal (negative : Bool) (whole fraction : List Digit) (exponent : ℤ) : ℚ :=
  (if negative then -1 else 1) *
    (digitsValue (whole ++ fraction) / 10 ^ fraction.length * 10 ^ exponent)

def value (n : Number) : ℚ :=
  decimal n.negative n.whole n.fraction (n.exponent.elim 0 Exponent.value)

end Number

/-- The digits of a natural number, most significant first. -/
def natDigits (n : ℕ) : List Digit :=
  if n = 0 then [0] else ((Nat.digits 10 n).map (Fin.ofNat 10)).reverse

theorem digitsValue_append (first second : List Digit) :
    digitsValue (first ++ second) =
      digitsValue first * 10 ^ second.length + digitsValue second := by
  induction second using List.reverseRecOn with
  | nil => simp [digitsValue]
  | append_singleton rest d ih =>
    have step : ∀ digits : List Digit, digitsValue (digits ++ [d]) = 10 * digitsValue digits + d :=
      fun digits => by simp [digitsValue]
    rw [← List.append_assoc, step, ih, step, List.length_append, List.length_singleton, pow_succ]
    ring

theorem digitsValue_reverse (digits : List Digit) :
    digitsValue digits.reverse = Nat.ofDigits 10 (digits.map Fin.val) := by
  induction digits with
  | nil => rfl
  | cons d rest ih =>
    rw [List.reverse_cons, digitsValue_append, ih, List.map_cons, Nat.ofDigits_cons]
    simp [digitsValue]
    ring

theorem digitsValue_natDigits (n : ℕ) : digitsValue (natDigits n) = n := by
  unfold natDigits
  split_ifs with zero
  · rw [zero]
    rfl
  · have same : ((Nat.digits 10 n).map (Fin.ofNat 10)).map Fin.val = Nat.digits 10 n := by
      rw [List.map_map]
      refine (List.map_congr_left fun d member => ?_).trans (List.map_id _)
      exact Nat.mod_eq_of_lt (Nat.digits_lt_base (by omega) member)
    rw [digitsValue_reverse, same, Nat.ofDigits_digits]

theorem natDigits_ne_nil (n : ℕ) : natDigits n ≠ [] := by
  unfold natDigits
  split_ifs with zero
  · exact List.cons_ne_nil 0 []
  · simpa using Nat.digits_ne_nil_iff_ne_zero.mpr zero

theorem natDigits_canonical (n : ℕ) : (natDigits n).head? = some 0 → natDigits n = [0] := by
  unfold natDigits
  split_ifs with zero
  · exact fun _ => rfl
  · intro leading
    rw [List.head?_reverse, List.getLast?_map] at leading
    have nonempty : Nat.digits 10 n ≠ [] := Nat.digits_ne_nil_iff_ne_zero.mpr zero
    rw [List.getLast?_eq_some_getLast nonempty] at leading
    have last : (Nat.digits 10 n).getLast nonempty % 10 = 0 :=
      congrArg Fin.val (Option.some.inj leading)
    rw [Nat.mod_eq_of_lt (Nat.digits_lt_base (by omega) (List.getLast_mem nonempty))] at last
    exact absurd last (Nat.getLast_digit_ne_zero 10 zero)

theorem length_natDigits_le {n k : ℕ} (positive : 1 ≤ k) (small : n < 10 ^ k) :
    (natDigits n).length ≤ k := by
  unfold natDigits
  split_ifs with zero
  · exact positive
  · rw [List.length_reverse, List.length_map]
    exact (Nat.digits_length_le_iff (by omega) n).mpr small

/-- The last digits of a natural number, as many as the width. -/
def fixedDigits : ℕ → ℕ → List Digit
  | 0, _ => []
  | width + 1, n => fixedDigits width (n / 10) ++ [Fin.ofNat 10 n]

theorem digitsValue_fixedDigits (width n : ℕ) :
    digitsValue (fixedDigits width n) = n % 10 ^ width := by
  induction width generalizing n with
  | zero => exact (Nat.mod_one n).symm
  | succ width ih =>
    have last : digitsValue [Fin.ofNat 10 n] = n % 10 := by simp [digitsValue]
    rw [fixedDigits, digitsValue_append, ih, last, List.length_singleton, pow_one, pow_succ',
      Nat.mod_mul]
    ring

/-- An integer in decimal. -/
def Number.ofInt (n : ℤ) : Number where
  negative := decide (n < 0)
  whole := natDigits n.natAbs
  fraction := []
  exponent := none
  nonempty := natDigits_ne_nil _
  canonical := natDigits_canonical _

@[simp] theorem Number.value_ofInt (n : ℤ) : (Number.ofInt n).value = n := by
  simp only [value, decimal, ofInt, List.append_nil, digitsValue_natDigits, Option.elim_none,
    List.length_nil, pow_zero, div_one, zpow_zero, mul_one, decide_eq_true_eq]
  -- sign and digits give the integer back
  rw [Nat.cast_natAbs]
  by_cases negative : n < 0
  · rw [if_pos negative, abs_of_neg negative]
    push_cast
    ring
  · rw [if_neg negative, abs_of_nonneg (not_lt.mp negative), one_mul]

theorem Number.length_text_ofInt_le {n : ℤ} {k : ℕ} (positive : 1 ≤ k)
    (small : n.natAbs < 10 ^ k) : (Number.ofInt n).text.length ≤ k + 1 := by
  have digits := length_natDigits_le positive small
  have sign : (Number.ofInt n).signText.length ≤ 1 := by
    unfold signText
    split_ifs <;> simp
  have short : (Number.ofInt n).text =
      (Number.ofInt n).signText ++ digitsText (natDigits n.natAbs) := by
    simp [text, ofInt, fractionText, exponentText]
  rw [short, List.length_append, digitsText, List.length_map]
  omega

/-! ## Values -/

/-- A JSON value; the members of an object in the order written. -/
inductive Value
  | null
  | bool (value : Bool)
  | number (value : Number)
  | string (chars : List Char)
  | array (items : List Value)
  | object (members : List (List Char × Value))

mutual

/-- How deeply arrays and objects are nested. -/
def Value.depth : Value → ℕ
  | .null | .bool _ | .number _ | .string _ => 0
  | .array items => Value.itemsDepth items + 1
  | .object members => Value.membersDepth members + 1

def Value.itemsDepth : List Value → ℕ
  | [] => 0
  | item :: rest => max item.depth (Value.itemsDepth rest)

def Value.membersDepth : List (List Char × Value) → ℕ
  | [] => 0
  | (_, value) :: rest => max value.depth (Value.membersDepth rest)

end

theorem Value.itemsDepth_le {items : List Value} {bound : ℕ}
    (each : ∀ item ∈ items, item.depth ≤ bound) : Value.itemsDepth items ≤ bound := by
  induction items with
  | nil => exact Nat.zero_le bound
  | cons item rest ih =>
    exact max_le (each item List.mem_cons_self)
      (ih fun later member => each later (List.mem_cons_of_mem item member))

theorem Value.membersDepth_le {members : List (List Char × Value)} {bound : ℕ}
    (each : ∀ member ∈ members, member.2.depth ≤ bound) :
    Value.membersDepth members ≤ bound := by
  induction members with
  | nil => exact Nat.zero_le bound
  | cons member rest ih =>
    exact max_le (each member List.mem_cons_self)
      (ih fun later inRest => each later (List.mem_cons_of_mem member inRest))

/-! ## Strings -/

def hexDigit (upper : Bool) (d : ℕ) : UInt8 :=
  if d < 10 then (48 + d).toUInt8 else ((if upper then 55 else 87) + d).toUInt8

/-- Four hexadecimal digits. -/
def hex4 (upper : Bool) (code : ℕ) : List UInt8 :=
  [hexDigit upper (code / 4096 % 16), hexDigit upper (code / 256 % 16),
    hexDigit upper (code / 16 % 16), hexDigit upper (code % 16)]

def unicodeEscape (upper : Bool) (code : ℕ) : List UInt8 :=
  byte '\\' :: byte 'u' :: hex4 upper code

/-- The two-character escapes: character and letter. -/
def shortEscapes : List (Char × Char) :=
  [('"', '"'), ('\\', '\\'), ('/', '/'), ('\x08', 'b'), ('\x0c', 'f'), ('\n', 'n'), ('\r', 'r'),
    ('\t', 't')]

/-- The ways to write a character in a string. -/
inductive Escapes (c : Char) : List UInt8 → Prop
  | raw (printable : 32 ≤ c.toNat) (notQuote : c ≠ '"') (notBackslash : c ≠ '\\') :
      Escapes c (String.utf8EncodeChar c)
  | short (letter : Char) (listed : (c, letter) ∈ shortEscapes) :
      Escapes c [byte '\\', byte letter]
  | basic (upper : Bool) (narrow : c.toNat < 0x10000) : Escapes c (unicodeEscape upper c.toNat)
  | surrogates (upper : Bool) (wide : 0x10000 ≤ c.toNat) :
      Escapes c (unicodeEscape upper (0xD800 + (c.toNat - 0x10000) / 0x400) ++
        unicodeEscape upper (0xDC00 + (c.toNat - 0x10000) % 0x400))

/-- A choice of one way for every character. -/
structure Encoder where
  escape : Char → List UInt8
  legal : ∀ c, Escapes c (escape c)

/-! ## Text -/

section Text

variable (encoder : Encoder)

def stringText (chars : List Char) : List UInt8 :=
  byte '"' :: (chars.flatMap encoder.escape ++ [byte '"'])

mutual

/-- The compact text of a value. -/
def Value.text : Value → List UInt8
  | .null => lit "null"
  | .bool true => lit "true"
  | .bool false => lit "false"
  | .number n => n.text
  | .string chars => stringText encoder chars
  | .array items => byte '[' :: (Value.itemsText items ++ [byte ']'])
  | .object members => byte '{' :: (Value.membersText members ++ [byte '}'])

def Value.itemsText : List Value → List UInt8
  | [] => []
  | [item] => item.text
  | item :: rest => item.text ++ byte ',' :: Value.itemsText rest

def Value.membersText : List (List Char × Value) → List UInt8
  | [] => []
  | [(key, value)] => stringText encoder key ++ byte ':' :: value.text
  | (key, value) :: rest =>
    stringText encoder key ++ byte ':' :: (value.text ++ byte ',' :: Value.membersText rest)

end

/-! ## The text has no control characters -/

/-- No byte is a control character. -/
def Printable (bytes : List UInt8) : Prop := ∀ b ∈ bytes, 32 ≤ b.toNat

instance : DecidablePred Printable := fun bytes =>
  List.decidableBAll (fun b : UInt8 => 32 ≤ b.toNat) bytes

theorem Printable.append {first second : List UInt8} (left : Printable first)
    (right : Printable second) : Printable (first ++ second) := by
  intro b member
  rcases List.mem_append.mp member with here | there
  · exact left b here
  · exact right b there

theorem Printable.cons {b : UInt8} {rest : List UInt8} (first : 32 ≤ b.toNat)
    (later : Printable rest) : Printable (b :: rest) := by
  intro c member
  rcases List.mem_cons.mp member with rfl | there
  · exact first
  · exact later c there

theorem Printable.nil : Printable [] := fun _ member => absurd member List.not_mem_nil

theorem Digit.toNat_toByte (d : Digit) : d.toByte.toNat = 48 + d.val := by
  have small := d.isLt
  rw [toByte, show (48 + d.val).toUInt8.toNat = (48 + d.val) % 256 from UInt8.toNat_ofNat']
  omega

section Bytes

variable {P : UInt8 → Prop} (digit : ∀ d : Digit, P d.toByte) (mark : ∀ b ∈ lit "+-.eE", P b)

include digit

theorem forall_mem_digitsText (digits : List Digit) : ∀ b ∈ digitsText digits, P b := by
  intro b member
  obtain ⟨d, -, rfl⟩ := List.mem_map.mp member
  exact digit d

include mark

theorem Exponent.forall_mem_text (exponent : Exponent) : ∀ b ∈ exponent.text, P b := by
  have letter : byte (if exponent.capital then 'E' else 'e') ∈ lit "+-.eE" := by
    cases exponent.capital <;> decide
  have sign : ∀ b ∈ exponent.signText, P b := by
    unfold Exponent.signText
    split
    · exact List.forall_mem_nil _
    · exact List.forall_mem_singleton.mpr (mark _ (by decide))
    · exact List.forall_mem_singleton.mpr (mark _ (by decide))
  exact List.forall_mem_cons.mpr ⟨mark _ letter,
    List.forall_mem_append.mpr ⟨sign, forall_mem_digitsText digit exponent.digits⟩⟩

/-- What holds of the digits and of the signs, points and letters of numbers holds of every
byte of a number. -/
theorem Number.forall_mem_text (n : Number) : ∀ b ∈ n.text, P b := by
  have sign : ∀ b ∈ n.signText, P b := by
    unfold signText
    split_ifs
    · exact List.forall_mem_singleton.mpr (mark _ (by decide))
    · exact List.forall_mem_nil _
  have fraction : ∀ b ∈ n.fractionText, P b := by
    unfold fractionText
    split_ifs
    · exact List.forall_mem_nil _
    · exact List.forall_mem_cons.mpr ⟨mark _ (by decide), forall_mem_digitsText digit _⟩
  have exponent : ∀ b ∈ n.exponentText, P b := by
    unfold exponentText
    cases n.exponent with
    | none => exact List.forall_mem_nil _
    | some exponent => exact exponent.forall_mem_text digit mark
  exact List.forall_mem_append.mpr ⟨sign, List.forall_mem_append.mpr
    ⟨forall_mem_digitsText digit _, List.forall_mem_append.mpr ⟨fraction, exponent⟩⟩⟩

end Bytes

theorem Number.printable_text (n : Number) : Printable n.text :=
  n.forall_mem_text (by decide) (by decide +kernel)

theorem le_toNat_hexDigit (upper : Bool) {d : ℕ} (small : d < 16) :
    32 ≤ (hexDigit upper d).toNat := by
  unfold hexDigit
  split_ifs <;> rw [Nat.toUInt8, UInt8.toNat_ofNat'] <;> omega

theorem printable_unicodeEscape (upper : Bool) (code : ℕ) :
    Printable (unicodeEscape upper code) := by
  have digit : ∀ n, 32 ≤ (hexDigit upper (n % 16)).toNat :=
    fun n => le_toNat_hexDigit upper (Nat.mod_lt n (by omega))
  exact ((((Printable.nil.cons (digit _)).cons (digit _)).cons (digit _)).cons (digit _)).cons
    (by decide) |>.cons (by decide)

theorem Escapes.printable {c : Char} {bytes : List UInt8} (escapes : Escapes c bytes) :
    Printable bytes := by
  cases escapes with
  | raw printable notQuote notBackslash =>
    exact fun b member => Utf8.le_toNat_of_mem_encodeChar (by omega) printable member
  | short letter listed =>
    refine (Printable.nil.cons ?_).cons (by decide)
    have letters : ∀ entry ∈ shortEscapes, 32 ≤ (byte entry.2).toNat := by decide
    exact letters _ listed
  | basic upper narrow => exact printable_unicodeEscape upper _
  | surrogates upper wide =>
    exact (printable_unicodeEscape upper _).append (printable_unicodeEscape upper _)

theorem printable_stringText (chars : List Char) : Printable (stringText encoder chars) := by
  have body : Printable (chars.flatMap encoder.escape) := by
    intro b member
    obtain ⟨c, -, here⟩ := List.mem_flatMap.mp member
    exact (encoder.legal c).printable b here
  exact (body.append (Printable.nil.cons (by decide))).cons (by decide)

mutual

theorem Value.printable_text : ∀ v : Value, Printable (v.text encoder)
  | .null => (by decide : Printable (lit "null"))
  | .bool true => (by decide : Printable (lit "true"))
  | .bool false => (by decide : Printable (lit "false"))
  | .number n => n.printable_text
  | .string chars => printable_stringText encoder chars
  | .array items =>
    ((Value.printable_itemsText items).append (Printable.nil.cons (by decide))).cons (by decide)
  | .object members =>
    ((Value.printable_membersText members).append (Printable.nil.cons (by decide))).cons (by decide)

theorem Value.printable_itemsText : ∀ items, Printable (Value.itemsText encoder items)
  | [] => Printable.nil
  | [item] => item.printable_text
  | item :: next :: rest =>
    item.printable_text.append ((Value.printable_itemsText (next :: rest)).cons (by decide))

theorem Value.printable_membersText : ∀ members, Printable (Value.membersText encoder members)
  | [] => Printable.nil
  | [(key, value)] =>
    (printable_stringText encoder key).append (value.printable_text.cons (by decide))
  | (key, value) :: next :: rest =>
    (printable_stringText encoder key).append
      ((value.printable_text.append
        ((Value.printable_membersText (next :: rest)).cons (by decide))).cons (by decide))

end

end Text

end Json
