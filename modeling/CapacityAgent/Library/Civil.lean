/-
# The days of all years

The Gregorian calendar with years before 0 as well. The day after a day is found by the
rules of the calendar, and days are ordered by year, month and day. The number of a day,
counted from the first day of year 0, goes up by one from a day to the next and takes every
integer once.
-/

import CapacityAgent.Library.Gregorian
import Mathlib.Data.Prod.Lex
import Mathlib.Order.Monotone.Basic

namespace Civil

/-! ## The calendar -/

def IsLeap (year : ℤ) : Prop := 4 ∣ year ∧ (¬100 ∣ year ∨ 400 ∣ year)

instance (year : ℤ) : Decidable (IsLeap year) :=
  inferInstanceAs (Decidable (4 ∣ year ∧ (¬100 ∣ year ∨ 400 ∣ year)))

/-- The calendar repeats after 400 years. -/
def cycleYear (year : ℤ) : ℕ := (year % 400).toNat

/-- The months are numbered from 1. -/
def monthLength (year : ℤ) (month : ℕ) : ℕ := Gregorian.monthLength (cycleYear year) month

/-- A day of the calendar. -/
@[ext] structure Day where
  year : ℤ
  month : ℕ
  day : ℕ
  month_pos : 1 ≤ month
  month_le : month ≤ 12
  day_pos : 1 ≤ day
  day_le : day ≤ monthLength year month

theorem isLeap_cycleYear (year : ℤ) : Gregorian.IsLeap (cycleYear year) ↔ IsLeap year := by
  unfold Gregorian.IsLeap IsLeap cycleYear
  omega

theorem one_le_monthLength {year : ℤ} {month : ℕ} (later : 1 ≤ month) :
    1 ≤ monthLength year month := by
  unfold monthLength Gregorian.monthLength
  split
  · omega
  · split_ifs <;> omega
  all_goals omega

/-! ## The next day -/

namespace Day

variable {d e : Day}

/-- The first of January. -/
def newYear (year : ℤ) : Day :=
  ⟨year, 1, 1, Nat.le_add_left 1 0, Nat.le_add_left 1 11, Nat.le_add_left 1 0,
    one_le_monthLength (Nat.le_add_left 1 0)⟩

/-- The day after a day. -/
def next (d : Day) : Day :=
  if inMonth : d.day < monthLength d.year d.month then
    ⟨d.year, d.month, d.day + 1, d.month_pos, d.month_le, Nat.le_add_left 1 _, inMonth⟩
  else if inYear : d.month < 12 then
    ⟨d.year, d.month + 1, 1, Nat.le_add_left 1 _, inYear, Nat.le_add_left 1 0,
      one_le_monthLength (Nat.le_add_left 1 _)⟩
  else newYear (d.year + 1)

/-- Everything the next day can be. -/
theorem next_cases (d : Day) :
    (d.day < monthLength d.year d.month ∧ d.next.year = d.year ∧ d.next.month = d.month ∧
      d.next.day = d.day + 1) ∨
    (d.day = monthLength d.year d.month ∧ d.month < 12 ∧ d.next.year = d.year ∧
      d.next.month = d.month + 1 ∧ d.next.day = 1) ∨
    (d.day = monthLength d.year d.month ∧ d.month = 12 ∧ d.next.year = d.year + 1 ∧
      d.next.month = 1 ∧ d.next.day = 1) := by
  unfold next
  by_cases inMonth : d.day < monthLength d.year d.month
  · rw [dif_pos inMonth]
    exact .inl ⟨inMonth, rfl, rfl, rfl⟩
  · have last : d.day = monthLength d.year d.month := le_antisymm d.day_le (not_lt.mp inMonth)
    rw [dif_neg inMonth]
    by_cases inYear : d.month < 12
    · rw [dif_pos inYear]
      exact .inr (.inl ⟨last, inYear, rfl, rfl, rfl⟩)
    · rw [dif_neg inYear]
      exact .inr (.inr ⟨last, le_antisymm d.month_le (not_lt.mp inYear), rfl, rfl, rfl⟩)

/-! ## The order of the days -/

/-- Year, month and day. -/
def key (d : Day) : ℤ ×ₗ ℕ ×ₗ ℕ := toLex (d.year, toLex (d.month, d.day))

theorem key_injective : Function.Injective key := by
  intro d e same
  obtain ⟨year, rest⟩ := Prod.mk.inj same
  obtain ⟨month, day⟩ := Prod.mk.inj rest
  exact Day.ext year month day

instance : LinearOrder Day := LinearOrder.lift' key key_injective

theorem lt_iff : d < e ↔
    d.year < e.year ∨ d.year = e.year ∧
      (d.month < e.month ∨ d.month = e.month ∧ d.day < e.day) := by
  change key d < key e ↔ _
  rw [key, key, Prod.Lex.toLex_lt_toLex, Prod.Lex.toLex_lt_toLex]

theorem year_mono (le : d ≤ e) : d.year ≤ e.year := by
  rcases le.eq_or_lt with rfl | lt
  · exact le_rfl
  · rcases lt_iff.mp lt with years | ⟨same, -⟩
    · exact years.le
    · exact same.le

/-! ## Numbers of days -/

/-- The days of the years from year 0 to a year, less those of the years from it to year 0. -/
def daysBeforeYear (year : ℤ) : ℤ :=
  365 * year + (year + 3) / 4 - (year + 99) / 100 + (year + 399) / 400

/-- The number of days from the first day of year 0. -/
def number (d : Day) : ℤ :=
  daysBeforeYear d.year + Gregorian.daysBeforeMonth (cycleYear d.year) d.month + (d.day - 1)

/-- Every fourth year has a leap day, except that of the centuries only every fourth has. -/
theorem daysBeforeYear_succ (year : ℤ) :
    daysBeforeYear (year + 1) = daysBeforeYear year + Gregorian.yearLength (cycleYear year) := by
  unfold daysBeforeYear Gregorian.yearLength
  simp only [isLeap_cycleYear]
  split_ifs with leap
  · unfold IsLeap at leap
    omega
  · unfold IsLeap at leap
    omega

theorem daysBeforeYear_mono {year year' : ℤ} (le : year ≤ year') :
    daysBeforeYear year ≤ daysBeforeYear year' := by
  refine monotone_int_of_le_succ (fun year => ?_) le
  rw [daysBeforeYear_succ]
  exact Int.le_add_of_nonneg_right (Int.natCast_nonneg _)

/-- The days before the month after a month. -/
theorem daysBeforeMonth_succ (d : Day) :
    Gregorian.daysBeforeMonth (cycleYear d.year) (d.month + 1) =
      Gregorian.daysBeforeMonth (cycleYear d.year) d.month + monthLength d.year d.month := by
  rw [Gregorian.daysBeforeMonth, monthLength]

theorem number_next (d : Day) : d.next.number = d.number + 1 := by
  have month := daysBeforeMonth_succ d
  unfold number
  rcases d.next_cases with ⟨-, year, same, later⟩ | ⟨last, -, year, later, first⟩ |
    ⟨last, december, year, january, first⟩
  · rw [year, same, later]
    omega
  · rw [year, later, first, month]
    omega
  · -- the twelve months make up the year
    have whole : Gregorian.daysBeforeMonth (cycleYear d.year) (12 + 1) =
      Gregorian.yearLength (cycleYear d.year) := Gregorian.daysBeforeMonth_thirteen _
    rw [december] at month last ⊢
    have none : Gregorian.daysBeforeMonth (cycleYear (d.year + 1)) 1 = 0 := rfl
    rw [year, january, first, daysBeforeYear_succ, none]
    omega

/-- A day has a number below those of the next month. -/
theorem number_lt_of_month (d : Day) :
    d.number < daysBeforeYear d.year +
      Gregorian.daysBeforeMonth (cycleYear d.year) (d.month + 1) := by
  have month := daysBeforeMonth_succ d
  have day := d.day_le
  unfold number
  omega

theorem number_lt (earlier : d < e) : d.number < e.number := by
  have day := e.day_pos
  rcases lt_iff.mp earlier with years | ⟨year, months | ⟨month, days⟩⟩
  · -- the whole year of the first is before the year of the second
    have months := Gregorian.daysBeforeMonth_mono (cycleYear d.year)
      (show d.month + 1 ≤ 13 from Nat.succ_le_succ d.month_le)
    have years' := daysBeforeYear_mono (show d.year + 1 ≤ e.year from years)
    have first := d.number_lt_of_month
    rw [Gregorian.daysBeforeMonth_thirteen] at months
    rw [daysBeforeYear_succ] at years'
    rw [number.eq_1 e]
    omega
  · have months' := Gregorian.daysBeforeMonth_mono (cycleYear d.year)
      (show d.month + 1 ≤ e.month from months)
    have first := d.number_lt_of_month
    rw [number.eq_1 e, ← year]
    omega
  · rw [number, number, year, month]
    omega

theorem number_lt_iff : d.number < e.number ↔ d < e :=
  StrictMono.lt_iff_lt fun _ _ => number_lt

theorem number_le_iff : d.number ≤ e.number ↔ d ≤ e :=
  StrictMono.le_iff_le fun _ _ => number_lt

/-- The day so many days later. -/
theorem number_iterate_next (d : Day) (n : ℕ) : (next^[n] d).number = d.number + n := by
  induction n with
  | zero => simp
  | succ n ih =>
    rw [Function.iterate_succ_apply', number_next, ih]
    push_cast
    omega

theorem number_newYear (year : ℤ) : (newYear year).number = daysBeforeYear year := by
  have none : Gregorian.daysBeforeMonth (cycleYear year) 1 = 0 := rfl
  simp [number, newYear, none]

/-- Every integer is the number of a day. -/
theorem number_surjective : Function.Surjective number := by
  intro n
  have early : (newYear (min n 0)).number ≤ n := by
    rw [number_newYear, daysBeforeYear]
    omega
  obtain ⟨later, sum⟩ := Int.le.dest early
  exact ⟨next^[later] (newYear (min n 0)), by rw [number_iterate_next, sum]⟩

/-! ## Years from 0 -/

/-- The months of years with the same leap day are alike. -/
theorem monthLength_congr {year year' : ℕ}
    (alike : Gregorian.IsLeap year ↔ Gregorian.IsLeap year') (month : ℕ) :
    Gregorian.monthLength year month = Gregorian.monthLength year' month := by
  unfold Gregorian.monthLength
  simp only [alike]

theorem daysBeforeMonth_congr {year year' : ℕ}
    (alike : Gregorian.IsLeap year ↔ Gregorian.IsLeap year') (month : ℕ) :
    Gregorian.daysBeforeMonth year month = Gregorian.daysBeforeMonth year' month := by
  induction month with
  | zero => rfl
  | succ month ih =>
    rw [Gregorian.daysBeforeMonth, Gregorian.daysBeforeMonth, ih, monthLength_congr alike]

theorem isLeap_natCast (year : ℕ) : IsLeap year ↔ Gregorian.IsLeap year := by
  unfold IsLeap Gregorian.IsLeap
  omega

/-- A year from 0 on and its place in the cycle. -/
theorem isLeap_cycleYear_natCast (year : ℕ) :
    Gregorian.IsLeap (cycleYear year) ↔ Gregorian.IsLeap year :=
  (isLeap_cycleYear year).trans (isLeap_natCast year)

theorem daysBeforeYear_natCast (year : ℕ) :
    daysBeforeYear year = Gregorian.daysBeforeYear year := by
  have centuries := Gregorian.daysBeforeYear_add_centuries year
  unfold daysBeforeYear
  omega

/-- A day of a year from 0 on. -/
def ofDate (date : Gregorian.Date) : Day where
  year := date.year
  month := date.month
  day := date.day
  month_pos := date.month_pos
  month_le := date.month_le
  day_pos := date.day_pos
  day_le := date.day_le.trans_eq (monthLength_congr (isLeap_cycleYear_natCast _).symm _)

theorem number_ofDate (date : Gregorian.Date) : (ofDate date).number = date.dayNumber := by
  have years := daysBeforeYear_natCast date.year
  have months := daysBeforeMonth_congr (isLeap_cycleYear_natCast date.year) date.month
  have day := date.day_pos
  simp only [number, ofDate, Gregorian.Date.dayNumber, years, months]
  omega

end Day

end Civil
