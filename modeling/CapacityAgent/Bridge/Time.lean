/-
# Times of the bridge

A `DateTimeOffset` in UTC, its round-trip format "O", and what the host makes of that
text.
-/

import CapacityAgent.Bridge.Models
import CapacityAgent.Parser.Timestamps

namespace CapacityAgent.LibreHwBridge

open Gregorian (Date)
open Json (Digit digitsText fixedDigits)
open Utf8 (encode)

def digitChar (d : Digit) : Char := Char.ofNat (48 + d)

/-- A digit sequence as a string. -/
def NetString.ofDigits (digits : List Digit) : NetString where
  chars := digits.map digitChar
  nulFree := fun c member => by
    have nonzero : ∀ d : Digit, (digitChar d).toNat ≠ 0 := by decide
    obtain ⟨d, -, rfl⟩ := List.mem_map.mp member
    exact nonzero d

open NetString (literal ofDigits)

/-- A time in UTC; the fraction counts ticks of 100 ns. -/
structure DateTimeOffset where
  date : Date
  hour : ℕ
  minute : ℕ
  second : ℕ
  fraction : ℕ
  year_pos : 1 ≤ date.year
  year_lt : date.year < 10000
  hour_lt : hour < 24
  minute_lt : minute < 60
  second_lt : second < 60
  fraction_lt : fraction < 10000000

namespace DateTimeOffset

/-- The ticks since the Unix epoch. -/
def ticks (t : DateTimeOffset) : ℤ :=
  (((t.date.dayNumber : ℤ) - epochDay) * 86400 + t.hour * 3600 + t.minute * 60 + t.second) *
    10000000 + t.fraction

/-- The milliseconds since the Unix epoch, rounded down. -/
def unixMs (t : DateTimeOffset) : ℤ := t.ticks / 10000

/-- `ToString("O")`, which writes the offset of UTC as a number. -/
def toRoundTrip (t : DateTimeOffset) : NetString :=
  ofDigits (fixedDigits 4 t.date.year) ++ literal "-" ++ ofDigits (fixedDigits 2 t.date.month) ++
    literal "-" ++ ofDigits (fixedDigits 2 t.date.day) ++ literal "T" ++
    ofDigits (fixedDigits 2 t.hour) ++ literal ":" ++ ofDigits (fixedDigits 2 t.minute) ++
    literal ":" ++ ofDigits (fixedDigits 2 t.second) ++ literal "." ++
    ofDigits (fixedDigits 7 t.fraction) ++ literal "+00:00"

theorem unixMs_eq (t : DateTimeOffset) :
    t.unixMs =
      (((t.date.dayNumber : ℤ) - epochDay) * 86400 + t.hour * 3600 + t.minute * 60 + t.second) *
        1000 + (t.fraction / 10000 : ℕ) := by
  rw [unixMs, ticks]
  omega

/-- All times are less than 2^62 ticks from the epoch. -/
theorem natAbs_ticks_lt (t : DateTimeOffset) : t.ticks.natAbs < 2 ^ 62 := by
  have days := t.date.dayNumber_le
  have year := t.year_lt
  have month := t.date.month_le
  have hour := t.hour_lt
  have minute := t.minute_lt
  have second := t.second_lt
  have fraction := t.fraction_lt
  rw [ticks, epochDay]
  omega

theorem encode_digits (digits : List Digit) :
    encode (digits.map digitChar) = digitsText digits := by
  have single : ∀ d : Digit, String.utf8EncodeChar (digitChar d) = [d.toByte] := by decide
  induction digits with
  | nil => rfl
  | cons d rest ih =>
    rw [List.map_cons, Utf8.encode_cons, single, ih]
    rfl

/-- The fields of the text. -/
def timestamp (t : DateTimeOffset) : Timestamp where
  year := ⟨t.date.year, t.year_lt⟩
  month := ⟨t.date.month, t.date.month_le.trans_lt (by omega)⟩
  day := ⟨t.date.day, t.date.day_le_thirtyOne.trans_lt (by omega)⟩
  hour := ⟨t.hour, t.hour_lt.trans (by omega)⟩
  minute := ⟨t.minute, t.minute_lt.trans (by omega)⟩
  second := ⟨t.second, t.second_lt.trans (by omega)⟩
  fraction := some (fixedDigits 7 t.fraction)
  zone := .offset false true 0 0

/-- The bytes of the text. -/
theorem bytes_toRoundTrip (t : DateTimeOffset) : t.toRoundTrip.utf8.bytes = t.timestamp.text := by
  have parts : ∀ s u : NetString, (s ++ u).utf8.bytes = s.utf8.bytes ++ u.utf8.bytes :=
    fun s u => Utf8.encode_append s.chars u.chars
  have digits : ∀ digits, (ofDigits digits).utf8.bytes = digitsText digits := encode_digits
  simp only [toRoundTrip, parts, digits, List.append_assoc]
  rfl

/-- The milliseconds of a fraction are its first three digits. -/
theorem fractionMs_fixedDigits {fraction : ℕ} (small : fraction < 10000000) :
    fractionMs (some (fixedDigits 7 fraction)) = fraction / 10000 := by
  have first : fractionMs (some (fixedDigits 7 fraction)) =
      Json.digitsValue (fixedDigits 3 (fraction / 10 / 10 / 10 / 10)) * 1 := rfl
  rw [first, digitsValue_fixedDigits_of_lt (by omega)]
  omega

theorem ms_timestamp (t : DateTimeOffset) : t.timestamp.ms = t.unixMs := by
  have days : daysFromCivil (t.timestamp.year : ℕ) (t.timestamp.month : ℕ).toUInt32
      (t.timestamp.day : ℕ).toUInt32 = (t.date.dayNumber : ℤ) - epochDay := daysFromCivil_eq t.date
  have fraction : fractionMs t.timestamp.fraction = t.fraction / 10000 :=
    fractionMs_fixedDigits t.fraction_lt
  have zone : t.timestamp.zone.seconds = 0 := rfl
  rw [unixMs_eq, Timestamp.ms, days, fraction, zone, sub_zero]
  rfl

/-- **The host reads what the bridge writes**, to the millisecond. -/
theorem parseIso8601UtcMs_toRoundTrip (t : DateTimeOffset) :
    parseIso8601UtcMs t.toRoundTrip.utf8.bytes = some t.unixMs := by
  rw [bytes_toRoundTrip, parseIso8601UtcMs_text, ms_timestamp]

end DateTimeOffset

end CapacityAgent.LibreHwBridge
