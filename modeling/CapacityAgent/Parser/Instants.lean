/-
# The instants of timestamps

`ParseIso8601UtcMs` with every signed operation checked: none overflows on any text. On
a date and time that exist the result is the instant, rounded down to milliseconds.
-/

import CapacityAgent.Library.Signed
import CapacityAgent.Parser.Timestamps
import Mathlib.Data.Rat.Floor

namespace CapacityAgent

open Gregorian Signed
open Json (Digit digitsText digitsValue)

/-! ## The parser with checked arithmetic -/

/-- How a parse ends without a result. -/
inductive ParseStop
  | rejected
  | overflow
  deriving DecidableEq

/-- The result of an operation on `int`. -/
def int (x : ℤ) : Except ParseStop ℤ := checked 32 .overflow x

/-- The result of an operation on `std::int64_t`. -/
def long (x : ℤ) : Except ParseStop ℤ := checked 64 .overflow x

/-- One round of `ParseInt`. -/
def checkedDigit (value : ℤ) (ch : UInt8) : Except ParseStop ℤ :=
  if CJson.isDigit ch then do
    let tens ← int (value * 10)
    let digit ← int (ch.toNat - 48)
    int (tens + digit)
  else .error .rejected

/-- `ParseInt`. -/
def checkedParseInt (text : Bytes) (offset length : ℕ) : Except ParseStop ℤ :=
  if text.length < offset + length then .error .rejected
  else ((text.drop offset).take length).foldlM checkedDigit 0

/-- `DaysFromCivil`. -/
def checkedDaysFromCivil (year : ℤ) (month day : UInt32) : Except ParseStop ℤ := do
  let year ← int (year - if month ≤ 2 then 1 else 0)
  let dividend ← (if 0 ≤ year then .ok year else int (year - 399))
  let era ← int (dividend.tdiv 400)
  let eraYears ← int (era * 400)
  let yearOfEra ← int (year - eraYears)
  let yearOfEra := UInt32.ofInt yearOfEra
  let dayOfYear := (153 * (month + (if 2 < month then -3 else 9)) + 2) / 5 + day - 1
  let dayOfEra := yearOfEra * 365 + yearOfEra / 4 - yearOfEra / 100 + dayOfYear
  let eraDays ← long (era * 146097)
  let days ← long (eraDays + dayOfEra.toInt32.toInt)
  long (days - 719468)

/-- The loop over the fraction. -/
def checkedFractionLoop (millisecond msDigits : ℤ) : Bytes → Except ParseStop (ℤ × ℤ × Bytes)
  | [] => .ok (millisecond, msDigits, [])
  | ch :: rest =>
    if CJson.isDigit ch then
      if msDigits < 3 then do
        let tens ← int (millisecond * 10)
        let digit ← int (ch.toNat - 48)
        let millisecond ← int (tens + digit)
        let msDigits ← int (msDigits + 1)
        checkedFractionLoop millisecond msDigits rest
      else checkedFractionLoop millisecond msDigits rest
    else .ok (millisecond, msDigits, ch :: rest)

/-- The loop that scales the milliseconds, for the number of its rounds. -/
def checkedScale (millisecond msDigits : ℤ) : ℕ → Except ParseStop ℤ
  | 0 => .ok millisecond
  | rounds + 1 => do
    let millisecond ← int (millisecond * 10)
    let msDigits ← int (msDigits + 1)
    checkedScale millisecond msDigits rounds

/-- The milliseconds after the seconds, and what is left. -/
def checkedFraction (rest : Bytes) : Except ParseStop (ℤ × Bytes) := do
  let (millisecond, msDigits, rest) ←
    match rest with
    | ch :: more => if ch = byte '.' then checkedFractionLoop 0 0 more else .ok (0, 0, rest)
    | [] => .ok (0, 0, [])
  let millisecond ← checkedScale millisecond msDigits (3 - msDigits).toNat
  .ok (millisecond, rest)

/-- The offset of the time zone in seconds, and what is left. -/
def checkedTimeZone : Bytes → Except ParseStop (ℤ × Bytes)
  | [] => .error .rejected
  | ch :: rest =>
    if ch = byte 'Z' then .ok (0, rest)
    else if ch = byte '+' ∨ ch = byte '-' then do
      let sign : ℤ := if ch = byte '+' then 1 else -1
      let tzHour ← checkedParseInt rest 0 2
      let afterHour := rest.drop 2
      let minutes := if afterHour.head? = some (byte ':') then afterHour.tail else afterHour
      let tzMinute ← checkedParseInt minutes 0 2
      let hourSeconds ← int (tzHour * 3600)
      let minuteSeconds ← int (tzMinute * 60)
      let offset ← int (hourSeconds + minuteSeconds)
      let tzOffsetSeconds ← int (sign * offset)
      .ok (tzOffsetSeconds, minutes.drop 2)
    else .error .rejected

/-- `ParseIso8601UtcMs`. -/
def checkedParseIso8601UtcMs (text : Bytes) : Except ParseStop ℤ :=
  if text.length < 19 then .error .rejected
  else if text[4]? ≠ some (byte '-') ∨ text[7]? ≠ some (byte '-') ∨ text[10]? ≠ some (byte 'T') ∨
      text[13]? ≠ some (byte ':') ∨ text[16]? ≠ some (byte ':') then .error .rejected
  else do
    let year ← checkedParseInt text 0 4
    let month ← checkedParseInt text 5 2
    let day ← checkedParseInt text 8 2
    let hour ← checkedParseInt text 11 2
    let minute ← checkedParseInt text 14 2
    let second ← checkedParseInt text 17 2
    let (millisecond, zone) ← checkedFraction (text.drop 19)
    let (tzOffsetSeconds, rest) ← checkedTimeZone zone
    if rest ≠ [] then .error .rejected
    else
      let days ← checkedDaysFromCivil year (UInt32.ofInt month) (UInt32.ofInt day)
      let daySeconds ← long (days * 86400)
      let hourSeconds ← int (hour * 3600)
      let seconds ← long (daySeconds + hourSeconds)
      let minuteSeconds ← int (minute * 60)
      let seconds ← long (seconds + minuteSeconds)
      let seconds ← long (seconds + second)
      let seconds ← long (seconds - tzOffsetSeconds)
      let ms ← long (seconds * 1000)
      long (ms + millisecond)

/-! ## No overflow -/

/-- A result of the unchecked parser. -/
def orRejected {α : Type} : Option α → Except ParseStop α
  | some x => .ok x
  | none => .error .rejected

theorem ok_bind {α β ε : Type} (x : α) (next : α → Except ε β) : (Except.ok x >>= next) = next x :=
  rfl

theorem int_of_fits {x : ℤ} (low : -2147483648 ≤ x) (high : x < 2147483648) : int x = .ok x :=
  checked_int low high _

theorem long_of_fits {x : ℤ} (low : -9223372036854775808 ≤ x) (high : x < 9223372036854775808) :
    long x = .ok x := checked_long low high _

theorem digit_bounds {ch : UInt8} (digit : CJson.isDigit ch = true) :
    48 ≤ ch.toNat ∧ ch.toNat - 48 ≤ 9 := by
  obtain ⟨d, rfl⟩ := exists_digit digit
  have small := d.isLt
  rw [Json.Digit.toNat_toByte]
  omega

/-- A digit of a number with less than nine digits. -/
theorem checkedDigits_eq {value : ℕ} {ch : UInt8} (digit : CJson.isDigit ch = true)
    (small : value < 10 ^ 8) :
    int ((value : ℤ) * 10) = .ok ((value : ℤ) * 10) ∧
      int ((ch.toNat : ℤ) - 48) = .ok ((ch.toNat : ℤ) - 48) ∧
        int ((value : ℤ) * 10 + ((ch.toNat : ℤ) - 48)) =
          .ok ((value * 10 + (ch.toNat - 48) : ℕ) : ℤ) := by
  obtain ⟨low, high⟩ := digit_bounds digit
  have sum : (value : ℤ) * 10 + ((ch.toNat : ℤ) - 48) =
      ((value * 10 + (ch.toNat - 48) : ℕ) : ℤ) := by omega
  refine ⟨int_of_fits (by omega) (by omega), int_of_fits (by omega) (by omega), ?_⟩
  rw [sum]
  exact int_of_fits (by omega) (by omega)

theorem checkedDigit_eq {value : ℕ} (small : value < 10 ^ 8) (ch : UInt8) :
    checkedDigit value ch = orRejected ((parseDigit value ch).map Nat.cast) := by
  unfold checkedDigit parseDigit
  by_cases digit : CJson.isDigit ch = true
  · obtain ⟨tens, unit, sum⟩ := checkedDigits_eq digit small
    rw [if_pos digit, if_pos digit, tens, unit]
    exact sum
  · rw [if_neg digit, if_neg digit]
    rfl

theorem foldlM_checkedDigit_eq (slice : Bytes) {value seen : ℕ} (small : value < 10 ^ seen)
    (short : seen + slice.length ≤ 9) :
    slice.foldlM checkedDigit (value : ℤ) =
      orRejected ((slice.foldlM parseDigit value).map Nat.cast) := by
  induction slice generalizing value seen with
  | nil => rfl
  | cons ch rest ih =>
    rw [List.length_cons] at short
    have bound : value < 10 ^ 8 := small.trans_le (Nat.pow_le_pow_right (by omega) (by omega))
    rw [List.foldlM_cons, List.foldlM_cons, checkedDigit_eq bound]
    cases read : parseDigit value ch with
    | none => rfl
    | some next =>
      have smaller : next < 10 ^ (seen + 1) := by
        unfold parseDigit at read
        split_ifs at read with digit
        obtain rfl := Option.some.inj read
        have high := (digit_bounds digit).2
        rw [pow_succ]
        omega
      exact ih smaller (by omega)

theorem checkedParseInt_eq (text : Bytes) (offset : ℕ) {length : ℕ} (short : length ≤ 9) :
    checkedParseInt text offset length =
      orRejected ((parseInt text offset length).map Nat.cast) := by
  unfold checkedParseInt parseInt
  by_cases outside : text.length < offset + length
  · rw [if_pos outside, if_pos outside]
    rfl
  · rw [if_neg outside, if_neg outside]
    have slice : ((text.drop offset).take length).length ≤ length := List.length_take_le _ _
    have start : 0 < 10 ^ 0 := Nat.one_pos
    exact foldlM_checkedDigit_eq _ start (by omega)

/-- The year that begins in March, in which `DaysFromCivil` calculates. -/
def marchYear (year : ℤ) (month : UInt32) : ℤ := if month ≤ 2 then year - 1 else year

/-- The era gives the days but for an `int`, whatever the month and the day are. -/
theorem daysFromCivil_bounds (year : ℤ) (month day : UInt32) :
    marchYear year month / 400 * 146097 - 2148203116 ≤ daysFromCivil year month day ∧
      daysFromCivil year month day < marchYear year month / 400 * 146097 + 2146764180 := by
  unfold daysFromCivil
  dsimp only
  rw [era_eq, ← marchYear.eq_1]
  generalize UInt32.toInt32 _ = dayOfEra
  have low := dayOfEra.le_toInt
  have high := dayOfEra.toInt_lt
  omega

/-- Nothing overflows above the first 399 years of the type. -/
theorem checkedDaysFromCivil_of_bounds {year : ℤ} {month : UInt32}
    (low : -2147483249 ≤ marchYear year month) (high : marchYear year month < 2147483648)
    (day : UInt32) :
    checkedDaysFromCivil year month day = .ok (daysFromCivil year month day) := by
  have shifted : year - (if month ≤ 2 then 1 else 0) = marchYear year month := by
    unfold marchYear
    split_ifs <;> omega
  unfold checkedDaysFromCivil daysFromCivil
  rw [shifted, ← marchYear.eq_1]
  generalize marchYear year month = y at low high
  have dividend : (if 0 ≤ y then .ok y else int (y - 399)) =
      Except.ok (if 0 ≤ y then y else y - 399) := by
    split_ifs
    · rfl
    · exact int_of_fits (by omega) (by omega)
  have quotient := era_eq y
  have year32 : int y = .ok y := int_of_fits (by omega) (by omega)
  have era32 : int (y / 400) = .ok (y / 400) := int_of_fits (by omega) (by omega)
  have years32 : int (y / 400 * 400) = .ok (y / 400 * 400) := int_of_fits (by omega) (by omega)
  have yearOfEra32 : int (y - y / 400 * 400) = .ok (y - y / 400 * 400) :=
    int_of_fits (by omega) (by omega)
  have days64 : long (y / 400 * 146097) = .ok (y / 400 * 146097) :=
    long_of_fits (by omega) (by omega)
  simp only [bind, Except.bind, year32, dividend, quotient, era32, years32, yearOfEra32, days64]
  generalize UInt32.toInt32 _ = dayOfEra
  have dayLow := dayOfEra.le_toInt
  have dayHigh := dayOfEra.toInt_lt
  rw [long_of_fits (by omega) (by omega)]
  exact long_of_fits (by omega) (by omega)

/-- In the years of four digits the days are far from overflowing. -/
theorem checkedDaysFromCivil_eq {year : ℕ} (small : year < 10000) (month day : UInt32) :
    checkedDaysFromCivil year month day = .ok (daysFromCivil year month day) ∧
      -2200000000 ≤ daysFromCivil year month day ∧ daysFromCivil year month day < 2200000000 := by
  have bounds := daysFromCivil_bounds year month day
  have march : -1 ≤ marchYear year month ∧ marchYear year month < 10000 := by
    unfold marchYear
    split_ifs <;> omega
  exact ⟨checkedDaysFromCivil_of_bounds (by omega) (by omega) day, by omega, by omega⟩

/-- The loop has at most three digits, and the number they make. -/
theorem checkedFractionLoop_eq (rest : Bytes) {millisecond msDigits : ℕ}
    (small : millisecond < 10 ^ msDigits) (few : msDigits ≤ 3) :
    checkedFractionLoop millisecond msDigits rest =
        .ok (((fractionLoop millisecond msDigits rest).1 : ℤ),
          ((fractionLoop millisecond msDigits rest).2.1 : ℤ),
          (fractionLoop millisecond msDigits rest).2.2) ∧
      (fractionLoop millisecond msDigits rest).1 <
        10 ^ (fractionLoop millisecond msDigits rest).2.1 ∧
          (fractionLoop millisecond msDigits rest).2.1 ≤ 3 := by
  induction rest generalizing millisecond msDigits with
  | nil => exact ⟨rfl, small, few⟩
  | cons ch rest ih =>
    unfold checkedFractionLoop fractionLoop
    by_cases digit : CJson.isDigit ch = true
    · rw [if_pos digit, if_pos digit]
      by_cases more : msDigits < 3
      · have bound : millisecond < 10 ^ 8 :=
          small.trans_le (Nat.pow_le_pow_right (by omega) (by omega))
        have high := (digit_bounds digit).2
        have smaller : millisecond * 10 + (ch.toNat - 48) < 10 ^ (msDigits + 1) := by
          rw [pow_succ]
          omega
        have count : int ((msDigits : ℤ) + 1) = .ok ((msDigits + 1 : ℕ) : ℤ) :=
          int_of_fits (by omega) (by omega)
        obtain ⟨tens, unit, sum⟩ := checkedDigits_eq digit bound
        have later := ih smaller (by omega)
        rw [if_pos more, if_pos (by omega), tens, ok_bind, unit, ok_bind, sum, ok_bind, count,
          ok_bind]
        exact later
      · rw [if_neg more, if_neg (by omega)]
        exact ih small few
    · rw [if_neg digit, if_neg digit]
      exact ⟨rfl, small, few⟩

theorem checkedScale_eq {millisecond msDigits rounds : ℕ} (small : millisecond < 10 ^ msDigits)
    (whole : msDigits + rounds = 3) :
    checkedScale millisecond msDigits rounds = .ok ((millisecond * 10 ^ rounds : ℕ) : ℤ) := by
  induction rounds generalizing millisecond msDigits with
  | zero => rw [pow_zero, Nat.mul_one]; rfl
  | succ rounds ih =>
    have bound : millisecond < 10 ^ 3 :=
      small.trans_le (Nat.pow_le_pow_right (by omega) (by omega))
    have scaled : int ((millisecond : ℤ) * 10) = .ok ((millisecond * 10 : ℕ) : ℤ) :=
      int_of_fits (by omega) (by omega)
    have count : int ((msDigits : ℤ) + 1) = .ok ((msDigits + 1 : ℕ) : ℤ) :=
      int_of_fits (by omega) (by omega)
    have smaller : millisecond * 10 < 10 ^ (msDigits + 1) := by
      rw [pow_succ]
      omega
    have later := ih smaller (by omega)
    rw [checkedScale, scaled, ok_bind, count, ok_bind, later, pow_succ', Nat.mul_assoc]

theorem checkedFraction_eq (rest : Bytes) :
    checkedFraction rest = .ok (((parseFraction rest).1 : ℤ), (parseFraction rest).2) ∧
      (parseFraction rest).1 < 1000 := by
  -- after the loop, with the digits it has seen
  have scaled : ∀ {scanned : ℕ × ℕ × Bytes}, scanned.1 < 10 ^ scanned.2.1 → scanned.2.1 ≤ 3 →
      checkedScale (scanned.1 : ℤ) (scanned.2.1 : ℤ) (3 - (scanned.2.1 : ℤ)).toNat =
          .ok ((scanned.1 * 10 ^ (3 - scanned.2.1) : ℕ) : ℤ) ∧
        scanned.1 * 10 ^ (3 - scanned.2.1) < 1000 := by
    intro scanned small few
    have rounds : (3 - (scanned.2.1 : ℤ)).toNat = 3 - scanned.2.1 := by omega
    rw [rounds]
    refine ⟨checkedScale_eq small (by omega), ?_⟩
    calc scanned.1 * 10 ^ (3 - scanned.2.1)
        < 10 ^ scanned.2.1 * 10 ^ (3 - scanned.2.1) :=
          Nat.mul_lt_mul_of_pos_right small (Nat.pow_pos (by omega))
      _ = 10 ^ 3 := by rw [← pow_add, Nat.add_sub_cancel' few]
  cases rest with
  | nil => exact ⟨rfl, by decide⟩
  | cons ch more =>
    unfold checkedFraction parseFraction
    by_cases point : ch = byte '.'
    · obtain ⟨scanned, small, few⟩ :=
        @checkedFractionLoop_eq more 0 0 Nat.one_pos (Nat.zero_le 3)
      obtain ⟨total, less⟩ := scaled small few
      have looped : checkedFractionLoop 0 0 more = _ := scanned
      simp only [if_pos point]
      rw [looped, ok_bind]
      refine ⟨?_, less⟩
      dsimp only
      rw [total, ok_bind]
    · refine ⟨?_, ?_⟩
      · simp only [if_neg point]
        rfl
      · simp [point]

theorem parseInt_lt {text : Bytes} {offset width n : ℕ}
    (read : parseInt text offset width = some n) :
    n < 10 ^ width := (parseInt_eq_some_iff.mp read).2.2

/-- `checkedTimeZone` after the sign. -/
theorem checkedTimeZone_sign (negative : Bool) (rest : Bytes) :
    checkedTimeZone (signByte negative :: rest) =
      (checkedParseInt rest 0 2 >>= fun tzHour =>
        checkedParseInt (skipColon (rest.drop 2)) 0 2 >>= fun tzMinute =>
          int (tzHour * 3600) >>= fun hourSeconds => int (tzMinute * 60) >>= fun minuteSeconds =>
            int (hourSeconds + minuteSeconds) >>= fun offset =>
              int ((if negative then -1 else 1) * offset) >>= fun tzOffsetSeconds =>
                .ok (tzOffsetSeconds, (skipColon (rest.drop 2)).drop 2)) := by
  cases negative <;> rfl

theorem checkedTimeZone_eq (text : Bytes) :
    checkedTimeZone text = orRejected (parseTimeZone text) ∧
      ∀ offset rest, parseTimeZone text = some (offset, rest) → offset.natAbs ≤ 362340 := by
  cases text with
  | nil => exact ⟨rfl, fun offset rest read => absurd read (by simp [parseTimeZone])⟩
  | cons ch rest =>
    by_cases utc : ch = byte 'Z'
    · subst utc
      refine ⟨rfl, fun offset left read => ?_⟩
      obtain ⟨rfl, -⟩ := Prod.mk.inj (Option.some.inj read)
      exact Nat.zero_le _
    by_cases sign : ∃ negative, ch = signByte negative
    · obtain ⟨negative, rfl⟩ := sign
      rw [checkedTimeZone_sign, parseTimeZone_sign, checkedParseInt_eq _ _ (by omega),
        checkedParseInt_eq _ _ (by omega)]
      cases readHour : parseInt rest 0 2 with
      | none => exact ⟨rfl, fun offset left read => absurd read (by simp)⟩
      | some hour =>
        cases readMinute : parseInt (skipColon (rest.drop 2)) 0 2 with
        | none => exact ⟨rfl, fun offset left read => absurd read (by simp)⟩
        | some minute =>
          have hourSmall := parseInt_lt readHour
          have minuteSmall := parseInt_lt readMinute
          have hours : int ((hour : ℤ) * 3600) = .ok ((hour : ℤ) * 3600) :=
            int_of_fits (by omega) (by omega)
          have minutes : int ((minute : ℤ) * 60) = .ok ((minute : ℤ) * 60) :=
            int_of_fits (by omega) (by omega)
          have sum : int ((hour : ℤ) * 3600 + (minute : ℤ) * 60) =
              .ok ((hour : ℤ) * 3600 + (minute : ℤ) * 60) := int_of_fits (by omega) (by omega)
          have bound : (offsetSeconds negative hour minute).natAbs ≤ 362340 := by
            unfold offsetSeconds
            split_ifs <;> omega
          have offset : int ((if negative then -1 else 1) * ((hour : ℤ) * 3600 + minute * 60)) =
              .ok (offsetSeconds negative hour minute) :=
            int_of_fits (show -2147483648 ≤ offsetSeconds negative hour minute by omega)
              (show offsetSeconds negative hour minute < 2147483648 by omega)
          refine ⟨?_, fun offset left read => ?_⟩
          · rw [Option.map_some, Option.map_some, orRejected, orRejected, ok_bind, ok_bind, hours,
              ok_bind, minutes, ok_bind, sum, ok_bind, offset, ok_bind]
            rfl
          · obtain ⟨rfl, -⟩ := Prod.mk.inj (Option.some.inj read)
            exact bound
    · have other : ¬(ch = byte '+' ∨ ch = byte '-') := by
        rintro (rfl | rfl)
        · exact sign ⟨false, rfl⟩
        · exact sign ⟨true, rfl⟩
      rw [checkedTimeZone, parseTimeZone, if_neg utc, if_neg utc, if_neg other, if_neg other]
      exact ⟨rfl, fun offset left read => absurd read (by simp)⟩

/-- Computations that agree on what the first part reads agree, and are rejected together. -/
theorem orRejected_bind {α β γ : Type} {read : Option α} {cast : α → β}
    {next : β → Except ParseStop γ} {next' : α → Option γ}
    (same : ∀ x, read = some x → next (cast x) = orRejected (next' x)) :
    (orRejected (read.map cast) >>= next) = orRejected (read.bind next') := by
  cases read with
  | none => rfl
  | some x => exact same x rfl

theorem ofInt_natCast_eq (n : ℕ) : UInt32.ofInt (n : ℤ) = n.toUInt32 := by
  refine UInt32.toNat_inj.mp ?_
  rw [UInt32.ofInt, UInt32.toNat_ofNat', Nat.toUInt32, UInt32.toNat_ofNat']
  omega

/-- **No signed operation overflows**, on any text. -/
theorem checkedParseIso8601UtcMs_eq (text : Bytes) :
    checkedParseIso8601UtcMs text = orRejected (parseIso8601UtcMs text) := by
  unfold checkedParseIso8601UtcMs parseIso8601UtcMs
  by_cases short : text.length < 19
  · rw [if_pos short, if_pos short]
    rfl
  rw [if_neg short, if_neg short]
  by_cases wrong : text[4]? ≠ some (byte '-') ∨ text[7]? ≠ some (byte '-') ∨
      text[10]? ≠ some (byte 'T') ∨ text[13]? ≠ some (byte ':') ∨ text[16]? ≠ some (byte ':')
  · rw [if_pos wrong, if_pos wrong]
    rfl
  rw [if_neg wrong, if_neg wrong, checkedParseInt_eq _ _ (by omega),
    checkedParseInt_eq _ _ (by omega), checkedParseInt_eq _ _ (by omega),
    checkedParseInt_eq _ _ (by omega), checkedParseInt_eq _ _ (by omega),
    checkedParseInt_eq _ _ (by omega)]
  -- a field that is no number rejects in both
  refine orRejected_bind fun year readYear => ?_
  refine orRejected_bind fun month readMonth => ?_
  refine orRejected_bind fun day readDay => ?_
  refine orRejected_bind fun hour readHour => ?_
  refine orRejected_bind fun minute readMinute => ?_
  refine orRejected_bind fun second readSecond => ?_
  obtain ⟨fraction, millisecondSmall⟩ := checkedFraction_eq (text.drop 19)
  obtain ⟨zone, offsetSmall⟩ := checkedTimeZone_eq (parseFraction (text.drop 19)).2
  rw [fraction, ok_bind]
  dsimp only
  rw [zone]
  cases readZone : parseTimeZone (parseFraction (text.drop 19)).2 with
  | none => rfl
  | some answer =>
    obtain ⟨tzOffsetSeconds, rest⟩ := answer
    rw [orRejected, ok_bind, Option.bind_eq_bind, Option.bind_some]
    dsimp only
    by_cases more : rest ≠ []
    · rw [if_pos more, if_pos more]
      rfl
    rw [if_neg more, if_neg more]
    -- what is computed from the fields
    obtain ⟨days, daysLow, daysHigh⟩ :=
      checkedDaysFromCivil_eq (parseInt_lt readYear) month.toUInt32 day.toUInt32
    have hourSmall := parseInt_lt readHour
    have minuteSmall := parseInt_lt readMinute
    have secondSmall := parseInt_lt readSecond
    have offset := offsetSmall tzOffsetSeconds rest readZone
    generalize daysFromCivil year month.toUInt32 day.toUInt32 = dayNumber at days daysLow daysHigh ⊢
    rw [ofInt_natCast_eq, ofInt_natCast_eq, days, ok_bind, long_of_fits (by omega) (by omega),
      ok_bind, int_of_fits (by omega) (by omega), ok_bind, long_of_fits (by omega) (by omega),
      ok_bind, int_of_fits (by omega) (by omega), ok_bind, long_of_fits (by omega) (by omega),
      ok_bind, long_of_fits (by omega) (by omega), ok_bind, long_of_fits (by omega) (by omega),
      ok_bind, long_of_fits (by omega) (by omega), ok_bind, long_of_fits (by omega) (by omega)]
    rfl

/-! ## Instants -/

def unixEpoch : Date where
  year := 1970
  month := 1
  day := 1
  month_pos := by decide
  month_le := by decide
  day_pos := by decide
  day_le := by decide

theorem dayNumber_unixEpoch : unixEpoch.dayNumber = epochDay := by
  have years := daysBeforeYear_add_centuries 1970
  have months : daysBeforeMonth 1970 1 = 0 := rfl
  simp only [Date.dayNumber, unixEpoch, epochDay, months]
  omega

/-- A fraction of a second by all its digits. -/
def fractionSeconds (fraction : Option (List Digit)) : ℚ :=
  (digitsValue (fraction.getD []) : ℚ) / 10 ^ (fraction.getD []).length

variable {t : Timestamp}

def Timestamp.OnCalendar.date (real : t.OnCalendar) : Date where
  year := t.year
  month := t.month
  day := t.day
  month_pos := real.month_pos
  month_le := real.month_le
  day_pos := real.day_pos
  day_le := real.day_le

/-- The seconds from the epoch to the instant, every day having 86400 of them. -/
def Timestamp.OnCalendar.instant (real : t.OnCalendar) : ℚ :=
  ((real.date.dayNumber : ℚ) - unixEpoch.dayNumber) * 86400 + (t.hour : ℕ) * 3600 +
    (t.minute : ℕ) * 60 + (t.second : ℕ) + fractionSeconds t.fraction - t.zone.seconds

/-- The first three digits are the whole milliseconds. -/
theorem fractionMs_eq_floor (fraction : Option (List Digit)) :
    (fractionMs fraction : ℤ) = ⌊fractionSeconds fraction * 1000⌋ := by
  unfold fractionMs fractionSeconds
  generalize fraction.getD [] = digits
  dsimp only
  by_cases few : digits.length ≤ 3
  · have scale : (10 : ℚ) ^ digits.length * 10 ^ (3 - digits.length) = 1000 := by
      rw [← pow_add, Nat.add_sub_cancel' few]
      norm_num
    have exact : (digitsValue digits : ℚ) / 10 ^ digits.length * 1000 =
        ((digitsValue digits * 10 ^ (3 - digits.length) : ℕ) : ℚ) := by
      rw [← scale]
      push_cast
      field_simp
    rw [exact, Int.floor_natCast, List.take_of_length_le few, min_eq_right few]
  · have enough : 3 ≤ digits.length := by omega
    have value : digitsValue digits =
        digitsValue (digits.take 3) * 10 ^ (digits.length - 3) + digitsValue (digits.drop 3) := by
      rw [← List.length_drop, ← Json.digitsValue_append, List.take_append_drop]
    have remainder : digitsValue (digits.drop 3) < 10 ^ (digits.length - 3) := by
      rw [← List.length_drop]
      exact (fixedDigits_digitsValue _).2
    have scale : (10 : ℚ) ^ digits.length = 1000 * 10 ^ (digits.length - 3) := by
      have split := pow_add (10 : ℚ) 3 (digits.length - 3)
      rw [Nat.add_sub_cancel' enough] at split
      rw [split]
      norm_num
    have exact : (digitsValue digits : ℚ) / 10 ^ digits.length * 1000 =
        (digitsValue digits : ℚ) / ((10 ^ (digits.length - 3) : ℕ) : ℚ) := by
      rw [scale]
      push_cast
      field_simp
    have first : digitsValue digits / 10 ^ (digits.length - 3) = digitsValue (digits.take 3) := by
      rw [value, Nat.mul_comm, Nat.mul_add_div (Nat.pow_pos (by omega)),
        Nat.div_eq_of_lt remainder, Nat.add_zero]
    rw [exact, Rat.floor_natCast_div_natCast, min_eq_left enough, Nat.sub_self, pow_zero,
      Nat.mul_one, ← first]
    rfl

/-- **Timestamps decode to the right instant**: every date and time that exist, with any
fraction and any offset, are read as the milliseconds since the epoch, rounded down, and
no signed operation overflows. -/
theorem timestamp_decodes (real : t.OnCalendar) :
    parseIso8601UtcMs t.text = some ⌊real.instant * 1000⌋ ∧
      checkedParseIso8601UtcMs t.text = .ok ⌊real.instant * 1000⌋ := by
  have days : daysFromCivil (t.year : ℕ) (t.month : ℕ).toUInt32 (t.day : ℕ).toUInt32 =
      (real.date.dayNumber : ℤ) - epochDay := daysFromCivil_eq real.date
  have instant : real.instant * 1000 =
      (((((real.date.dayNumber : ℤ) - epochDay) * 86400 + (t.hour : ℕ) * 3600 +
        (t.minute : ℕ) * 60 + (t.second : ℕ) - t.zone.seconds) * 1000 : ℤ) : ℚ) +
        fractionSeconds t.fraction * 1000 := by
    rw [Timestamp.OnCalendar.instant, dayNumber_unixEpoch]
    push_cast
    ring
  have exact : t.ms = ⌊real.instant * 1000⌋ := by
    rw [instant, Int.floor_intCast_add, ← fractionMs_eq_floor, Timestamp.ms, days]
  rw [checkedParseIso8601UtcMs_eq, parseIso8601UtcMs_text, exact]
  exact ⟨rfl, rfl⟩

/-- Less than a millisecond before the epoch. -/
def lastInstant : Timestamp where
  year := 1969
  month := 12
  day := 31
  hour := 23
  minute := 59
  second := 59
  fraction := some [9, 9, 9, 9]
  zone := .offset true true 0 0

theorem lastInstant_onCalendar : lastInstant.OnCalendar where
  month_pos := by decide
  month_le := by decide
  day_pos := by decide
  day_le := by decide
  hour_lt := by decide
  minute_lt := by decide
  second_le := by decide

theorem lastInstant_decodes :
    parseIso8601UtcMs lastInstant.text = some ⌊lastInstant_onCalendar.instant * 1000⌋ ∧
      checkedParseIso8601UtcMs lastInstant.text =
        .ok ⌊lastInstant_onCalendar.instant * 1000⌋ :=
  timestamp_decodes lastInstant_onCalendar

example : lastInstant.text = lit "1969-12-31T23:59:59.9999-00:00" ∧
    parseIso8601UtcMs lastInstant.text = some (-1) := by decide

end CapacityAgent
