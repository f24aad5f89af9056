/-
# The texts of timestamps

`ParseIso8601UtcMs` accepts a shape: fields of two or four digits between fixed
separators, a fraction of any digits, a time zone. Every text of the shape is accepted
and no other, whatever the fields say.
-/

import CapacityAgent.Parser.Iso8601

namespace CapacityAgent

open Gregorian
open Json (Digit digitsText digitsValue fixedDigits)

/-! ## The shape -/

instance neZero_hundred : NeZero 100 := ⟨by decide⟩

/-- `Z`, or a sign, hours and minutes with or without a colon between them. -/
inductive Zone
  | utc
  | offset (negative colon : Bool) (hour minute : Fin 100)

/-- The fields of a timestamp as they are written; a fraction may have no digits. -/
@[ext] structure Timestamp where
  year : Fin 10000
  month : Fin 100
  day : Fin 100
  hour : Fin 100
  minute : Fin 100
  second : Fin 100
  fraction : Option (List Digit)
  zone : Zone

/-- A number in a field of fixed width. -/
def fieldText (width n : ℕ) : Bytes := digitsText (fixedDigits width n)

def signByte (negative : Bool) : UInt8 := if negative then byte '-' else byte '+'

def colonText (colon : Bool) : Bytes := if colon then [byte ':'] else []

def Zone.text : Zone → Bytes
  | .utc => [byte 'Z']
  | .offset negative colon hour minute =>
    signByte negative ::
      (fieldText 2 hour ++ (colonText colon ++ fieldText 2 minute))

def fractionText : Option (List Digit) → Bytes
  | none => []
  | some digits => byte '.' :: digitsText digits

def Timestamp.text (t : Timestamp) : Bytes :=
  fieldText 4 t.year ++ byte '-' :: (fieldText 2 t.month ++ byte '-' ::
    (fieldText 2 t.day ++ byte 'T' :: (fieldText 2 t.hour ++ byte ':' ::
      (fieldText 2 t.minute ++ byte ':' :: (fieldText 2 t.second ++
        (fractionText t.fraction ++ t.zone.text))))))

def offsetSeconds (negative : Bool) (hour minute : ℕ) : ℤ :=
  (if negative then -1 else 1) * (hour * 3600 + minute * 60)

/-- The offset in seconds. -/
def Zone.seconds : Zone → ℤ
  | .utc => 0
  | .offset negative _ hour minute => offsetSeconds negative hour minute

/-- The first three digits of a fraction, with zeros for missing ones. -/
def fractionMs (fraction : Option (List Digit)) : ℕ :=
  let digits := fraction.getD []
  digitsValue (digits.take 3) * 10 ^ (3 - min 3 digits.length)

/-- The milliseconds the parser computes from the fields. -/
def Timestamp.ms (t : Timestamp) : ℤ :=
  (daysFromCivil (t.year : ℕ) (t.month : ℕ).toUInt32 (t.day : ℕ).toUInt32 * 86400 +
      (t.hour : ℕ) * 3600 + (t.minute : ℕ) * 60 + (t.second : ℕ) - t.zone.seconds) * 1000 +
    fractionMs t.fraction

/-! ## Fields -/

@[simp] theorem length_fieldText (width n : ℕ) : (fieldText width n).length = width := by
  unfold fieldText digitsText
  rw [List.length_map]
  induction width generalizing n with
  | zero => rfl
  | succ width ih => rw [fixedDigits, List.length_append, ih, List.length_singleton]

theorem digitsValue_fixedDigits_of_lt {width n : ℕ} (small : n < 10 ^ width) :
    digitsValue (fixedDigits width n) = n := by
  rw [Json.digitsValue_fixedDigits, Nat.mod_eq_of_lt small]

theorem digitsText_injective : Function.Injective digitsText := by
  intro digits digits' same
  rw [← CJson.digitsOf_digitsText digits, same, CJson.digitsOf_digitsText]

theorem fieldText_inj {width m n : ℕ} (small : m < 10 ^ width) (small' : n < 10 ^ width)
    (same : fieldText width m = fieldText width n) : m = n := by
  rw [← digitsValue_fixedDigits_of_lt small, digitsText_injective same,
    digitsValue_fixedDigits_of_lt small']

/-- A digit sequence is the field of its value. -/
theorem fixedDigits_digitsValue (digits : List Digit) :
    fixedDigits digits.length (digitsValue digits) = digits ∧
      digitsValue digits < 10 ^ digits.length := by
  induction digits using List.reverseRecOn with
  | nil => exact ⟨rfl, Nat.one_pos⟩
  | append_singleton earlier last ih =>
    have value : digitsValue (earlier ++ [last]) = 10 * digitsValue earlier + last := by
      rw [Json.digitsValue_append]
      simp [digitsValue, Nat.mul_comm]
    have small := last.isLt
    have quotient : (10 * digitsValue earlier + last) / 10 = digitsValue earlier := by omega
    have remainder : Fin.ofNat 10 (10 * digitsValue earlier + last) = last := by
      refine Fin.ext ?_
      rw [Fin.val_ofNat]
      omega
    rw [value, List.length_append, List.length_singleton, fixedDigits, quotient, ih.1, remainder]
    refine ⟨rfl, ?_⟩
    have earlierSmall := ih.2
    rw [pow_succ]
    omega

theorem exists_digit {b : UInt8} (digit : CJson.isDigit b = true) : ∃ d : Digit, b = d.toByte := by
  have here : 48 ≤ b.toNat ∧ b.toNat ≤ 57 := by
    unfold CJson.isDigit at digit
    obtain ⟨low, high⟩ := Bool.and_eq_true_iff.mp digit
    exact ⟨UInt8.le_iff_toNat_le.mp (of_decide_eq_true low),
      UInt8.le_iff_toNat_le.mp (of_decide_eq_true high)⟩
  refine ⟨⟨b.toNat - 48, by omega⟩, UInt8.toNat_inj.mp ?_⟩
  rw [Json.Digit.toNat_toByte]
  dsimp only
  omega

theorem exists_digitsText {bytes : Bytes} (digits : ∀ b ∈ bytes, CJson.isDigit b = true) :
    ∃ ds : List Digit, bytes = digitsText ds := by
  induction bytes with
  | nil => exact ⟨[], rfl⟩
  | cons b rest ih =>
    obtain ⟨d, rfl⟩ := exists_digit (digits b List.mem_cons_self)
    obtain ⟨ds, rfl⟩ := ih fun b' member => digits b' (List.mem_cons_of_mem _ member)
    exact ⟨d :: ds, rfl⟩

theorem isDigit_of_foldlM_parseDigit {bytes : Bytes} {value n : ℕ}
    (read : bytes.foldlM parseDigit value = some n) : ∀ b ∈ bytes, CJson.isDigit b = true := by
  induction bytes generalizing value with
  | nil => exact fun b member => absurd member List.not_mem_nil
  | cons b rest ih =>
    rw [List.foldlM_cons] at read
    obtain ⟨next, first, later⟩ := Option.bind_eq_some_iff.mp read
    have digit : CJson.isDigit b = true := by
      unfold parseDigit at first
      split_ifs at first with digit
      exact digit
    intro b' member
    rcases List.mem_cons.mp member with rfl | there
    · exact digit
    · exact ih later b' there

/-- `ParseInt` succeeds on a field and nowhere else. -/
theorem parseInt_eq_some_iff {text : Bytes} {offset width n : ℕ} :
    parseInt text offset width = some n ↔
      offset + width ≤ text.length ∧ (text.drop offset).take width = fieldText width n ∧
        n < 10 ^ width := by
  constructor
  · intro read
    unfold parseInt at read
    split_ifs at read with short
    have inside := Nat.not_lt.mp short
    obtain ⟨digits, slice⟩ := exists_digitsText (isDigit_of_foldlM_parseDigit read)
    rw [slice, foldlM_parseDigit] at read
    obtain rfl : digitsValue digits = n := Option.some.inj read
    have width_eq : digits.length = width := by
      have lengths := congrArg List.length slice
      rw [List.length_take, List.length_drop, digitsText, List.length_map] at lengths
      omega
    obtain ⟨field, small⟩ := fixedDigits_digitsValue digits
    subst width_eq
    exact ⟨inside, by rw [slice, fieldText, field], small⟩
  · rintro ⟨inside, slice, small⟩
    rw [parseInt_of_slice inside slice, digitsValue_fixedDigits_of_lt small]

/-! ## Fraction and zone -/

/-- The fraction ends where a time zone begins. -/
structure EndsFraction (rest : Bytes) : Prop where
  undigital : CJson.Undigital rest
  noPoint : byte '.' ∉ rest.head?

theorem Zone.endsFraction (zone : Zone) : EndsFraction zone.text := by
  cases zone with
  | utc => exact ⟨by simp [CJson.Undigital, text]; decide, by simp [text]; decide⟩
  | offset negative colon hour minute =>
    refine ⟨?_, ?_⟩
    · simp only [CJson.Undigital, text, List.head?_cons, Option.mem_some_iff, forall_eq']
      cases negative <;> decide
    · simp only [text, List.head?_cons, Option.mem_some_iff]
      cases negative <;> decide

theorem parseFraction_text (fraction : Option (List Digit)) {rest : Bytes}
    (ends : EndsFraction rest) :
    parseFraction (fractionText fraction ++ rest) = (fractionMs fraction, rest) := by
  cases fraction with
  | none =>
    rw [fractionText, List.nil_append]
    cases rest with
    | nil => rfl
    | cons ch more =>
      rw [parseFraction, if_neg fun point => ends.noPoint (by simp [point])]
      rfl
  | some digits =>
    have scanned : fractionLoop 0 0 (digitsText digits ++ rest) =
        (digitsValue (digits.take 3), min 3 digits.length, rest) :=
      fractionLoop_digitsText [] digits ends.undigital
    have text : fractionText (some digits) ++ rest = byte '.' :: (digitsText digits ++ rest) := rfl
    rw [text, parseFraction, if_pos rfl, scanned]
    rfl

/-- What the fraction loop passes over is a fraction. -/
theorem exists_fraction (rest : Bytes) :
    ∃ fraction, rest = fractionText fraction ++ (parseFraction rest).2 := by
  cases rest with
  | nil => exact ⟨none, rfl⟩
  | cons ch more =>
    by_cases point : ch = byte '.'
    · subst point
      obtain ⟨digits, taken⟩ : ∃ ds, more.takeWhile CJson.isDigit = digitsText ds :=
        exists_digitsText fun b member => List.mem_takeWhile_imp member
      have ends : CJson.Undigital (more.dropWhile CJson.isDigit) := by
        intro b first
        have stops := List.head?_dropWhile_not CJson.isDigit more
        rw [Option.mem_def.mp first] at stops
        exact stops
      have whole : more = digitsText digits ++ more.dropWhile CJson.isDigit := by
        rw [← taken, List.takeWhile_append_dropWhile]
      have scanned := fractionLoop_digitsText [] digits ends
      rw [← whole] at scanned
      have left : (parseFraction (byte '.' :: more)).2 = more.dropWhile CJson.isDigit :=
        congrArg (fun scanned : ℕ × ℕ × Bytes => scanned.2.2) scanned
      refine ⟨some digits, ?_⟩
      rw [left, fractionText, List.cons_append, ← whole]
    · refine ⟨none, ?_⟩
      rw [fractionText, List.nil_append, parseFraction, if_neg point]

/-- The minutes of an offset, behind the colon if there is one. -/
def skipColon (text : Bytes) : Bytes := if text.head? = some (byte ':') then text.tail else text

/-- `parseTimeZone` after the sign. -/
theorem parseTimeZone_sign (negative : Bool) (rest : Bytes) :
    parseTimeZone (signByte negative :: rest) =
      (parseInt rest 0 2).bind fun tzHour =>
        (parseInt (skipColon (rest.drop 2)) 0 2).bind fun tzMinute =>
          some (offsetSeconds negative tzHour tzMinute, (skipColon (rest.drop 2)).drop 2) := by
  cases negative <;> rfl

theorem skipColon_colonText {rest : Bytes} (noColon : rest.head? ≠ some (byte ':'))
    (colon : Bool) : skipColon (colonText colon ++ rest) = rest := by
  cases colon with
  | false => exact if_neg noColon
  | true => rfl

theorem exists_colon (text : Bytes) : ∃ colon, text = colonText colon ++ skipColon text := by
  by_cases colon : text.head? = some (byte ':')
  · refine ⟨true, ?_⟩
    rw [skipColon, if_pos colon]
    exact List.eq_cons_of_mem_head? colon
  · refine ⟨false, ?_⟩
    rw [skipColon, if_neg colon]
    rfl

theorem parseTimeZone_text (zone : Zone) : parseTimeZone zone.text = some (zone.seconds, []) := by
  cases zone with
  | utc => rfl
  | offset negative colon hour minute =>
    have hours : ∀ rest : Bytes, parseInt (fieldText 2 hour ++ rest) 0 2 = some (hour : ℕ) := by
      intro rest
      refine parseInt_eq_some_iff.mpr ⟨by simp, ?_, hour.isLt⟩
      rw [List.drop_zero, List.take_left' (length_fieldText 2 _)]
    have minutes : parseInt (fieldText 2 minute) 0 2 = some (minute : ℕ) := by
      refine parseInt_eq_some_iff.mpr ⟨by simp, ?_, minute.isLt⟩
      rw [List.drop_zero, List.take_of_length_le (by simp)]
    have nothing : (fieldText 2 minute).drop 2 = [] := List.drop_of_length_le (by simp)
    have noColon : (fieldText 2 minute).head? ≠ some (byte ':') := by
      intro first
      have digit := CJson.isDigit_of_mem_digitsText (List.mem_of_head? first)
      exact absurd digit (by decide)
    have text : (Zone.offset negative colon hour minute).text = signByte negative ::
        (fieldText 2 hour ++ (colonText colon ++ fieldText 2 minute)) := rfl
    have afterHour : (fieldText 2 hour ++ (colonText colon ++ fieldText 2 minute)).drop 2 =
        colonText colon ++ fieldText 2 minute := List.drop_left' (length_fieldText 2 _)
    rw [text, parseTimeZone_sign, hours, afterHour, skipColon_colonText noColon,
      Option.bind_some, minutes, Option.bind_some, nothing]
    rfl

/-- What is read to the end as a time zone is one. -/
theorem exists_zone {text : Bytes} {seconds : ℤ} (read : parseTimeZone text = some (seconds, [])) :
    ∃ zone : Zone, zone.text = text := by
  cases text with
  | nil => exact absurd read (by simp [parseTimeZone])
  | cons ch rest =>
    by_cases utc : ch = byte 'Z'
    · subst utc
      obtain ⟨rfl, rfl⟩ := Prod.mk.inj (Option.some.inj read)
      exact ⟨.utc, rfl⟩
    by_cases sign : ∃ negative, ch = signByte negative
    · obtain ⟨negative, rfl⟩ := sign
      rw [parseTimeZone_sign] at read
      obtain ⟨hour, readHour, readMinute⟩ := Option.bind_eq_some_iff.mp read
      obtain ⟨minute, readMinute, all⟩ := Option.bind_eq_some_iff.mp readMinute
      obtain ⟨-, hourText, hourSmall⟩ := parseInt_eq_some_iff.mp readHour
      obtain ⟨-, minuteText, minuteSmall⟩ := parseInt_eq_some_iff.mp readMinute
      have nothing : (skipColon (rest.drop 2)).drop 2 = [] := (Prod.mk.inj (Option.some.inj all)).2
      obtain ⟨colon, afterHour⟩ := exists_colon (rest.drop 2)
      rw [List.drop_zero] at hourText minuteText
      have minutes : skipColon (rest.drop 2) = fieldText 2 minute := by
        rw [← minuteText, List.take_of_length_le (List.drop_eq_nil_iff.mp nothing)]
      refine ⟨.offset negative colon ⟨hour, hourSmall⟩ ⟨minute, minuteSmall⟩, ?_⟩
      calc (Zone.offset negative colon ⟨hour, hourSmall⟩ ⟨minute, minuteSmall⟩).text
          = signByte negative :: (fieldText 2 hour ++ (colonText colon ++ fieldText 2 minute)) :=
            rfl
        _ = signByte negative :: (rest.take 2 ++ rest.drop 2) := by
            rw [hourText, ← minutes, ← afterHour]
        _ = signByte negative :: rest := by rw [List.take_append_drop]
    · refine absurd read ?_
      rw [parseTimeZone, if_neg utc, if_neg ?_]
      · simp
      · rintro (rfl | rfl)
        · exact sign ⟨false, rfl⟩
        · exact sign ⟨true, rfl⟩

/-! ## Whole timestamps -/

/-- **Every text of the shape is accepted.** -/
theorem parseIso8601UtcMs_text (t : Timestamp) : parseIso8601UtcMs t.text = some t.ms := by
  have length : 19 ≤ t.text.length := by
    simp only [Timestamp.text, List.length_append, List.length_cons, length_fieldText]
    omega
  -- each field stands at its own place in the first 19 bytes
  have field : ∀ {offset width : ℕ} {n : ℕ}, offset + width ≤ 19 → n < 10 ^ width →
      (t.text.drop offset).take width = fieldText width n →
        parseInt t.text offset width = some n := fun inside small slice =>
    parseInt_eq_some_iff.mpr ⟨inside.trans length, slice, small⟩
  have year : parseInt t.text 0 4 = some (t.year : ℕ) := field (by omega) t.year.isLt rfl
  have month : parseInt t.text 5 2 = some (t.month : ℕ) := field (by omega) t.month.isLt rfl
  have day : parseInt t.text 8 2 = some (t.day : ℕ) := field (by omega) t.day.isLt rfl
  have hour : parseInt t.text 11 2 = some (t.hour : ℕ) := field (by omega) t.hour.isLt rfl
  have minute : parseInt t.text 14 2 = some (t.minute : ℕ) := field (by omega) t.minute.isLt rfl
  have second : parseInt t.text 17 2 = some (t.second : ℕ) := field (by omega) t.second.isLt rfl
  have punctuation : ¬(t.text[4]? ≠ some (byte '-') ∨ t.text[7]? ≠ some (byte '-') ∨
      t.text[10]? ≠ some (byte 'T') ∨ t.text[13]? ≠ some (byte ':') ∨
      t.text[16]? ≠ some (byte ':')) := by
    simp only [not_or, not_not]
    exact ⟨rfl, rfl, rfl, rfl, rfl⟩
  have rest : t.text.drop 19 = fractionText t.fraction ++ t.zone.text := rfl
  rw [parseIso8601UtcMs, if_neg (Nat.not_lt.mpr length), if_neg punctuation, year, month, day, hour,
    minute, second, rest, parseFraction_text t.fraction t.zone.endsFraction]
  simp only [Option.bind_eq_bind, Option.bind_some, parseTimeZone_text, ne_eq, not_true, if_false]
  rfl

/-- **Only texts of the shape are accepted.** -/
theorem exists_timestamp {text : Bytes} {ms : ℤ} (accepted : parseIso8601UtcMs text = some ms) :
    ∃ t : Timestamp, t.text = text := by
  unfold parseIso8601UtcMs at accepted
  split_ifs at accepted with short wrong
  simp only [not_or, not_not] at wrong
  obtain ⟨dash, dash', letter, colon, colon'⟩ := wrong
  obtain ⟨year, readYear, accepted⟩ := Option.bind_eq_some_iff.mp accepted
  obtain ⟨month, readMonth, accepted⟩ := Option.bind_eq_some_iff.mp accepted
  obtain ⟨day, readDay, accepted⟩ := Option.bind_eq_some_iff.mp accepted
  obtain ⟨hour, readHour, accepted⟩ := Option.bind_eq_some_iff.mp accepted
  obtain ⟨minute, readMinute, accepted⟩ := Option.bind_eq_some_iff.mp accepted
  obtain ⟨second, readSecond, accepted⟩ := Option.bind_eq_some_iff.mp accepted
  obtain ⟨⟨offset, left⟩, readZone, accepted⟩ := Option.bind_eq_some_iff.mp accepted
  dsimp only at accepted
  split_ifs at accepted with more
  obtain rfl := not_not.mp more
  obtain ⟨zone, zoneText⟩ : ∃ zone : Zone, zone.text = (parseFraction (text.drop 19)).2 :=
    exists_zone readZone
  obtain ⟨fraction, fractionEq⟩ := exists_fraction (text.drop 19)
  -- the text from a position on begins with the field or the separator read there
  have field : ∀ {offset width n : ℕ}, parseInt text offset width = some n →
      text.drop offset = fieldText width n ++ text.drop (offset + width) := by
    intro offset width n read
    rw [← (parseInt_eq_some_iff.mp read).2.1, ← List.drop_drop, List.take_append_drop]
  have separator : ∀ {i : ℕ} {b : UInt8}, text[i]? = some b →
      text.drop i = b :: text.drop (i + 1) := by
    intro i b here
    obtain ⟨inside, rfl⟩ := List.getElem?_eq_some_iff.mp here
    exact List.drop_eq_getElem_cons inside
  have small := fun {offset width n : ℕ} (read : parseInt text offset width = some n) =>
    (parseInt_eq_some_iff.mp read).2.2
  refine ⟨⟨⟨year, small readYear⟩, ⟨month, small readMonth⟩, ⟨day, small readDay⟩,
    ⟨hour, small readHour⟩, ⟨minute, small readMinute⟩, ⟨second, small readSecond⟩, fraction,
    zone⟩, ?_⟩
  calc Timestamp.text _
      = fieldText 4 year ++ byte '-' :: (fieldText 2 month ++ byte '-' ::
          (fieldText 2 day ++ byte 'T' :: (fieldText 2 hour ++ byte ':' ::
            (fieldText 2 minute ++ byte ':' :: (fieldText 2 second ++ text.drop 19))))) := by
        rw [fractionEq, ← zoneText]
        rfl
    _ = text.drop 0 := by
        rw [field readYear, separator dash, field readMonth, separator dash', field readDay,
          separator letter, field readHour, separator colon, field readMinute, separator colon',
          field readSecond]
    _ = text := rfl

/-! ## The fields of a text -/

theorem fieldText_append_inj {width m n : ℕ} {rest rest' : Bytes} (small : m < 10 ^ width)
    (small' : n < 10 ^ width) (same : fieldText width m ++ rest = fieldText width n ++ rest') :
    m = n ∧ rest = rest' := by
  obtain ⟨fields, rests⟩ := List.append_inj same (by simp)
  exact ⟨fieldText_inj small small' fields, rests⟩

theorem fractionText_injective : Function.Injective fractionText := by
  intro fraction fraction' same
  cases fraction with
  | none =>
    cases fraction' with
    | none => rfl
    | some digits => simp [fractionText] at same
  | some digits =>
    cases fraction' with
    | none => simp [fractionText] at same
    | some digits' => exact congrArg some (digitsText_injective (List.cons.inj same).2)

theorem signByte_ne_utc (negative : Bool) : signByte negative ≠ byte 'Z' := by
  revert negative
  decide

theorem signByte_injective : Function.Injective signByte := by decide

theorem Zone.text_injective : Function.Injective Zone.text := by
  intro zone zone' same
  cases zone with
  | utc =>
    cases zone' with
    | utc => rfl
    | offset negative colon hour minute =>
      exact absurd (List.cons.inj same).1.symm (signByte_ne_utc negative)
  | offset negative colon hour minute =>
    cases zone' with
    | utc => exact absurd (List.cons.inj same).1 (signByte_ne_utc negative)
    | offset negative' colon' hour' minute' =>
      obtain ⟨signs, same⟩ := List.cons.inj same
      obtain ⟨hours, same⟩ := fieldText_append_inj hour.isLt hour'.isLt same
      have lengths := congrArg List.length same
      -- the colon shows in the length
      obtain rfl : colon = colon' := by
        cases colon <;> cases colon' <;> simp [colonText] at lengths ⊢
      have minutes := fieldText_inj minute.isLt minute'.isLt (List.append_cancel_left same)
      rw [signByte_injective signs, Fin.ext hours, Fin.ext minutes]

/-- The text determines the fields. -/
theorem Timestamp.text_injective : Function.Injective Timestamp.text := by
  intro t t' same
  unfold text at same
  obtain ⟨year, same⟩ := fieldText_append_inj t.year.isLt t'.year.isLt same
  obtain ⟨month, same⟩ := fieldText_append_inj t.month.isLt t'.month.isLt (List.cons.inj same).2
  obtain ⟨day, same⟩ := fieldText_append_inj t.day.isLt t'.day.isLt (List.cons.inj same).2
  obtain ⟨hour, same⟩ := fieldText_append_inj t.hour.isLt t'.hour.isLt (List.cons.inj same).2
  obtain ⟨minute, same⟩ := fieldText_append_inj t.minute.isLt t'.minute.isLt (List.cons.inj same).2
  obtain ⟨second, same⟩ := fieldText_append_inj t.second.isLt t'.second.isLt (List.cons.inj same).2
  -- the fraction ends at the same place in both
  have zones : t.zone.text = t'.zone.text := by
    have left := congrArg Prod.snd (parseFraction_text t.fraction t.zone.endsFraction)
    rw [same, parseFraction_text t'.fraction t'.zone.endsFraction] at left
    exact left.symm
  rw [zones] at same
  have fractions := fractionText_injective (List.append_cancel_right same)
  exact Timestamp.ext (Fin.ext year) (Fin.ext month) (Fin.ext day) (Fin.ext hour)
    (Fin.ext minute) (Fin.ext second) fractions (Zone.text_injective zones)

/-! ## Real timestamps -/

/-- The date exists in the calendar, and the time of day on a clock with leap seconds. -/
structure Timestamp.OnCalendar (t : Timestamp) : Prop where
  month_pos : 1 ≤ (t.month : ℕ)
  month_le : (t.month : ℕ) ≤ 12
  day_pos : 1 ≤ (t.day : ℕ)
  day_le : (t.day : ℕ) ≤ monthLength t.year t.month
  hour_lt : (t.hour : ℕ) < 24
  minute_lt : (t.minute : ℕ) < 60
  second_le : (t.second : ℕ) ≤ 60

def Zone.OnClock : Zone → Prop
  | .utc => True
  | .offset _ _ hour minute => (hour : ℕ) < 24 ∧ (minute : ℕ) < 60

/-- A date-time of RFC 3339, but for the colon of the offset. -/
structure Timestamp.Real (t : Timestamp) : Prop extends t.OnCalendar where
  digits : t.fraction ≠ some []
  zone : t.zone.OnClock

def IsTimestamp (text : Bytes) : Prop := ∃ t : Timestamp, t.text = text ∧ t.Real

/-- `ParseIso8601UtcMs` with what it leaves in `*out_ms`, which it writes last. -/
def parseIso8601Into (text : Bytes) (outMs : ℤ) : Bool × ℤ :=
  match parseIso8601UtcMs text with
  | some ms => (true, ms)
  | none => (false, outMs)

/-- What is accepted is a timestamp; other texts are rejected without a trace. -/
def OnlyTimestamps (text : Bytes) : Prop :=
  ∀ outMs, ((parseIso8601Into text outMs).1 = true → IsTimestamp text) ∧
    (¬ IsTimestamp text → parseIso8601Into text outMs = (false, outMs))

theorem parseIso8601Into_of_timestamp (t : Timestamp) (outMs : ℤ) :
    parseIso8601Into t.text outMs = (true, t.ms) := by
  rw [parseIso8601Into, parseIso8601UtcMs_text]

theorem parseIso8601Into_of_shapeless {text : Bytes} (shapeless : ¬ ∃ t : Timestamp, t.text = text)
    (outMs : ℤ) : parseIso8601Into text outMs = (false, outMs) := by
  unfold parseIso8601Into
  cases accepted : parseIso8601UtcMs text with
  | none => rfl
  | some ms => exact absurd (exists_timestamp accepted) shapeless

/-- **When only timestamps are accepted**: exactly when the text does not have the shape,
or the fields in it are real. -/
theorem onlyTimestamps_iff (text : Bytes) :
    OnlyTimestamps text ↔ ∀ t : Timestamp, t.text = text → t.Real := by
  constructor
  · rintro only t rfl
    -- the text is accepted, so it is a timestamp's, and no other has it
    obtain ⟨t', same, real⟩ := (only 0).1 (by rw [parseIso8601Into_of_timestamp])
    rwa [← Timestamp.text_injective same]
  · intro real outMs
    by_cases shape : ∃ t : Timestamp, t.text = text
    · obtain ⟨t, rfl⟩ := shape
      have timestamp : IsTimestamp t.text := ⟨t, rfl, real t rfl⟩
      exact ⟨fun _ => timestamp, fun other => absurd timestamp other⟩
    · have rejected := parseIso8601Into_of_shapeless shape outMs
      rw [rejected]
      exact ⟨fun accepted => absurd accepted Bool.false_ne_true, fun _ => rfl⟩

/-- The thirteenth month. -/
theorem texts_not_only_timestamps : ¬ ∀ text, OnlyTimestamps text := by
  intro always
  let t : Timestamp :=
    { year := 2026, month := 13, day := 45, hour := 25, minute := 61, second := 61
      fraction := none, zone := .utc }
  have written : t.text = lit "2026-13-45T25:61:61Z" := by decide
  obtain ⟨t', same, real⟩ := (always (lit "2026-13-45T25:61:61Z") 0).1 (by decide)
  obtain rfl := Timestamp.text_injective (same.trans written.symm)
  exact absurd real.month_le (by decide)

end CapacityAgent
