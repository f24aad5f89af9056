/-
# Timestamps

`ParseIso8601UtcMs` on the bytes of its string. Positions in the string are positions
in the list; after the seconds the functions take the part that is left.
-/

import CapacityAgent.CJson.Numbers
import CapacityAgent.Library.Civil

namespace CapacityAgent

open Gregorian

/-- A byte as a decimal digit of a number that is being read. -/
def parseDigit (value : ℕ) (ch : UInt8) : Option ℕ :=
  if CJson.isDigit ch then some (value * 10 + (ch.toNat - 48)) else none

/-- `ParseInt`. -/
def parseInt (text : Bytes) (offset length : ℕ) : Option ℕ :=
  if text.length < offset + length then none
  else ((text.drop offset).take length).foldlM parseDigit 0

/-- `DaysFromCivil`, in which the arithmetic on months and days is unsigned. -/
def daysFromCivil (year : ℤ) (month day : UInt32) : ℤ :=
  let year := if month ≤ 2 then year - 1 else year
  let era := (if 0 ≤ year then year else year - 399).tdiv 400
  -- 400 years have the same number of days, whichever era
  let yearOfEra := UInt32.ofInt (year - era * 400)
  let dayOfYear := (153 * (month + (if 2 < month then -3 else 9)) + 2) / 5 + day - 1
  let dayOfEra := yearOfEra * 365 + yearOfEra / 4 - yearOfEra / 100 + dayOfYear
  era * 146097 + dayOfEra.toInt32.toInt - 719468

/-- The loop over the fraction: the milliseconds and how many digits they have so far,
and what is left. Digits after the third are passed over. -/
def fractionLoop (millisecond msDigits : ℕ) : Bytes → ℕ × ℕ × Bytes
  | [] => (millisecond, msDigits, [])
  | ch :: rest =>
    if CJson.isDigit ch then
      if msDigits < 3 then fractionLoop (millisecond * 10 + (ch.toNat - 48)) (msDigits + 1) rest
      else fractionLoop millisecond msDigits rest
    else (millisecond, msDigits, ch :: rest)

/-- The milliseconds after the seconds, and what is left. -/
def parseFraction (rest : Bytes) : ℕ × Bytes :=
  let scanned :=
    match rest with
    | ch :: more => if ch = byte '.' then fractionLoop 0 0 more else (0, 0, rest)
    | [] => (0, 0, [])
  (scanned.1 * 10 ^ (3 - scanned.2.1), scanned.2.2)

/-- The offset of the time zone in seconds, and what is left. -/
def parseTimeZone : Bytes → Option (ℤ × Bytes)
  | [] => none
  | ch :: rest =>
    if ch = byte 'Z' then some (0, rest)
    else if ch = byte '+' ∨ ch = byte '-' then do
      let sign : ℤ := if ch = byte '+' then 1 else -1
      let tzHour ← parseInt rest 0 2
      let afterHour := rest.drop 2
      -- the colon may be missing
      let minutes := if afterHour.head? = some (byte ':') then afterHour.tail else afterHour
      let tzMinute ← parseInt minutes 0 2
      some (sign * (tzHour * 3600 + tzMinute * 60), minutes.drop 2)
    else none

/-- `ParseIso8601UtcMs`. -/
def parseIso8601UtcMs (text : Bytes) : Option ℤ :=
  if text.length < 19 then none
  else if text[4]? ≠ some (byte '-') ∨ text[7]? ≠ some (byte '-') ∨ text[10]? ≠ some (byte 'T') ∨
      text[13]? ≠ some (byte ':') ∨ text[16]? ≠ some (byte ':') then none
  else do
    let year ← parseInt text 0 4
    let month ← parseInt text 5 2
    let day ← parseInt text 8 2
    let hour ← parseInt text 11 2
    let minute ← parseInt text 14 2
    let second ← parseInt text 17 2
    let (millisecond, zone) := parseFraction (text.drop 19)
    let (tzOffsetSeconds, rest) ← parseTimeZone zone
    -- nothing may follow the time zone
    if rest ≠ [] then none
    else
      let days := daysFromCivil year month.toUInt32 day.toUInt32
      let seconds := days * 86400 + hour * 3600 + minute * 60 + second - tzOffsetSeconds
      some (seconds * 1000 + millisecond)

/-! ## Digits -/

open Json (Digit digitsText digitsValue)

theorem parseDigit_toByte (value : ℕ) (d : Digit) :
    parseDigit value d.toByte = some (10 * value + d) := by
  have digit : d.toByte.toNat - 48 = d := by
    revert d
    decide
  rw [parseDigit, if_pos (CJson.isDigit_toByte d), digit, Nat.mul_comm]

theorem foldlM_parseDigit (digits : List Digit) (value : ℕ) :
    (digitsText digits).foldlM parseDigit value =
      some (digits.foldl (fun n d => 10 * n + d.val) value) := by
  induction digits generalizing value with
  | nil => rfl
  | cons d rest ih =>
    calc (digitsText (d :: rest)).foldlM parseDigit value
        = (parseDigit value d.toByte).bind fun next => (digitsText rest).foldlM parseDigit next :=
          rfl
      _ = some ((d :: rest).foldl (fun n d => 10 * n + d.val) value) := by
          rw [parseDigit_toByte, Option.bind_some, ih]
          rfl

/-- `ParseInt` where the string has digits. -/
theorem parseInt_of_slice {text : Bytes} {offset length : ℕ} {digits : List Digit}
    (inside : offset + length ≤ text.length)
    (slice : (text.drop offset).take length = digitsText digits) :
    parseInt text offset length = some (digitsValue digits) := by
  rw [parseInt, if_neg (Nat.not_lt.mpr inside), slice, foldlM_parseDigit]
  rfl

/-- **The loop invariant.** The milliseconds are the first three digits of those seen. -/
theorem fractionLoop_digitsText (seen digits : List Digit) {rest : Bytes}
    (ends : CJson.Undigital rest) :
    fractionLoop (digitsValue (seen.take 3)) (min 3 seen.length) (digitsText digits ++ rest) =
      (digitsValue ((seen ++ digits).take 3), min 3 (seen ++ digits).length, rest) := by
  induction digits generalizing seen with
  | nil =>
    rw [List.append_nil]
    cases rest with
    | nil => rfl
    | cons b more => simp [digitsText, fractionLoop, ends b rfl]
  | cons d digits ih =>
    have digit : d.toByte.toNat - 48 = d := by
      revert d
      decide
    have next : seen ++ d :: digits = (seen ++ [d]) ++ digits := by simp
    rw [next, ← ih (seen ++ [d])]
    have text : digitsText (d :: digits) ++ rest = d.toByte :: (digitsText digits ++ rest) := rfl
    rw [text, fractionLoop, if_pos (CJson.isDigit_toByte d), digit]
    -- later digits are passed over
    by_cases few : seen.length < 3
    · have count : min 3 (seen ++ [d]).length = min 3 seen.length + 1 := by simp; omega
      have whole : (seen ++ [d]).take 3 = seen ++ [d] :=
        List.take_of_length_le (by simp; omega)
      rw [if_pos (by omega), count, whole, List.take_of_length_le few.le,
        Json.digitsValue_append]
      simp [digitsValue]
    · have count : min 3 (seen ++ [d]).length = min 3 seen.length := by simp; omega
      rw [if_neg (by omega), count, List.take_append_of_le_length (by omega)]

/-! ## Days -/

/-- The number of the Unix epoch's day. -/
def epochDay : ℕ := 719528

/-- Truncating division, corrected below 0, rounds down. -/
theorem era_eq (year : ℤ) :
    (if 0 ≤ year then year else year - 399).tdiv 400 = year / 400 := by
  split_ifs with nonneg
  · exact Int.tdiv_eq_ediv_of_nonneg nonneg
  · rw [Int.tdiv_eq_ediv]
    split_ifs with exact
    · omega
    · change (year - 399) / 400 + 1 = year / 400
      omega

theorem toNat_yearOfEra (year : ℤ) :
    ((UInt32.ofInt (year - year / 400 * 400)).toNat : ℤ) = year % 400 := by
  rw [UInt32.ofInt, UInt32.toNat_ofNat']
  omega

/-- The day of the year, counted from March. -/
theorem toNat_dayOfYear {month day : ℕ} (later : 1 ≤ month) (small : month ≤ 12)
    (dayLater : 1 ≤ day) (daySmall : day ≤ 31) :
    ((153 * (month.toUInt32 + (if 2 < month.toUInt32 then -3 else 9)) + 2) / 5 +
        day.toUInt32 - 1).toNat =
      (153 * (if 2 < month then month - 3 else month + 9) + 2) / 5 + (day - 1) := by
  have months : ((153 * (month.toUInt32 + (if 2 < month.toUInt32 then -3 else 9)) + 2) / 5).toNat =
      (153 * (if 2 < month then month - 3 else month + 9) + 2) / 5 := by
    -- the unsigned `-3` wraps, so the months are evaluated one by one
    interval_cases month <;> rfl
  have bound : (153 * (if 2 < month then month - 3 else month + 9) + 2) / 5 ≤ 337 := by
    split_ifs <;> omega
  have days : day.toUInt32.toNat = day % 2 ^ 32 := UInt32.toNat_ofNat'
  have one : (1 : UInt32).toNat = 1 := rfl
  rw [UInt32.toNat_sub, UInt32.toNat_add, months, days, one]
  omega

/-- The day of the era, from a year of the era and the day of that year. -/
theorem toInt_dayOfEra {yearOfEra dayOfYear : UInt32} {n d : ℕ} (year : yearOfEra.toNat = n)
    (day : dayOfYear.toNat = d) (yearSmall : n < 400) (daySmall : d < 400) :
    ((yearOfEra * 365 + yearOfEra / 4 - yearOfEra / 100 + dayOfYear).toInt32.toInt : ℤ) =
      n * 365 + n / 4 - n / 100 + d := by
  have days : (365 : UInt32).toNat = 365 := rfl
  have leaps : (4 : UInt32).toNat = 4 := rfl
  have centuries : (100 : UInt32).toNat = 100 := rfl
  have count : (yearOfEra * 365 + yearOfEra / 4 - yearOfEra / 100 + dayOfYear).toNat =
      n * 365 + n / 4 - n / 100 + d := by
    rw [UInt32.toNat_add, UInt32.toNat_sub, UInt32.toNat_add, UInt32.toNat_mul, UInt32.toNat_div,
      UInt32.toNat_div, year, day, days, leaps, centuries]
    omega
  -- small enough for the cast to `int` to keep the value
  have cast : ∀ x : UInt32, x.toNat < 2 ^ 31 → x.toInt32.toInt = (x.toNat : ℤ) := by
    intro x small
    have half : 2 * x.toNat < 2 ^ 32 := by omega
    exact BitVec.toInt_eq_toNat_of_lt half
  rw [cast _ (by rw [count]; omega), count]
  omega

/-- `DaysFromCivil` counts the days since the epoch, in all years. -/
theorem daysFromCivil_number (d : Civil.Day) :
    daysFromCivil d.year d.month.toUInt32 d.day.toUInt32 = d.number - epochDay := by
  obtain ⟨year, month, day, monthLater, monthSmall, dayLater, dayLe⟩ := d
  have daySmall : day ≤ 31 := dayLe.trans (monthLength_le _ month)
  have early : (month.toUInt32 ≤ 2) = (month ≤ 2) := by interval_cases month <;> rfl
  have ofYear := toNat_dayOfYear monthLater monthSmall dayLater daySmall
  have ofEra : ∀ y : ℤ, (UInt32.ofInt (y - y / 400 * 400)).toNat = (y % 400).toNat := fun y => by
    have here := toNat_yearOfEra y
    omega
  simp only [daysFromCivil, Civil.Day.number, Civil.Day.daysBeforeYear, early, epochDay]
  by_cases january : month ≤ 2
  · -- January and February end the year before
    have before : daysBeforeMonth (Civil.cycleYear year) month = if month = 1 then 0 else 31 := by
      interval_cases month <;> rfl
    rw [if_neg (Nat.not_lt.mpr january)] at ofYear
    rw [if_pos january, era_eq, toInt_dayOfEra (ofEra _) ofYear (by omega) (by omega), before]
    split_ifs <;> omega
  · have before := @daysBeforeMonth_of_gt (Civil.cycleYear year) month (Nat.not_le.mp january)
      monthSmall
    rw [if_pos (Nat.not_le.mp january)] at ofYear
    rw [if_neg january, era_eq, toInt_dayOfEra (ofEra _) ofYear (by omega) (by omega), before]
    simp only [Civil.isLeap_cycleYear]
    have leap : Civil.IsLeap year ↔ 4 ∣ year ∧ (¬100 ∣ year ∨ 400 ∣ year) := Iff.rfl
    split_ifs with leaps <;> rw [leap] at leaps <;> omega

/-- **`DaysFromCivil` counts the days since the epoch.** -/
theorem daysFromCivil_eq (date : Date) :
    daysFromCivil date.year date.month.toUInt32 date.day.toUInt32 =
      (date.dayNumber : ℤ) - epochDay := by
  rw [← Civil.Day.number_ofDate]
  exact daysFromCivil_number (Civil.Day.ofDate date)

end CapacityAgent
