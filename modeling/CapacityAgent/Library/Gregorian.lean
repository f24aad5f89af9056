/-
# The Gregorian calendar

Days are counted by adding up the lengths of the years and months before them, from
the first day of year 0 of the proleptic calendar.
-/

import Mathlib.Data.Nat.Basic
import Mathlib.Order.Monotone.Basic
import Mathlib.Tactic.Common
import Mathlib.Tactic.IntervalCases

namespace Gregorian

def IsLeap (year : ℕ) : Prop := 4 ∣ year ∧ (¬100 ∣ year ∨ 400 ∣ year)

instance (year : ℕ) : Decidable (IsLeap year) :=
  inferInstanceAs (Decidable (4 ∣ year ∧ (¬100 ∣ year ∨ 400 ∣ year)))

def yearLength (year : ℕ) : ℕ := if IsLeap year then 366 else 365

/-- The months are numbered from 1. -/
def monthLength (year : ℕ) : ℕ → ℕ
  | 0 => 0
  | 2 => if IsLeap year then 29 else 28
  | 4 | 6 | 9 | 11 => 30
  | _ => 31

/-- The days of the years before a year. -/
def daysBeforeYear : ℕ → ℕ
  | 0 => 0
  | year + 1 => daysBeforeYear year + yearLength year

/-- The days of the year before a month. -/
def daysBeforeMonth (year : ℕ) : ℕ → ℕ
  | 0 => 0
  | month + 1 => daysBeforeMonth year month + monthLength year month

/-- A day of the calendar. -/
structure Date where
  year : ℕ
  month : ℕ
  day : ℕ
  month_pos : 1 ≤ month
  month_le : month ≤ 12
  day_pos : 1 ≤ day
  day_le : day ≤ monthLength year month

/-- The number of days before a day. -/
def Date.dayNumber (date : Date) : ℕ :=
  daysBeforeYear date.year + daysBeforeMonth date.year date.month + (date.day - 1)

theorem monthLength_le (year month : ℕ) : monthLength year month ≤ 31 := by
  unfold monthLength
  split
  · omega
  · split_ifs <;> omega
  all_goals omega

theorem Date.day_le_thirtyOne (date : Date) : date.day ≤ 31 :=
  date.day_le.trans (monthLength_le _ _)

theorem Date.dayNumber_le (date : Date) :
    date.dayNumber ≤ 366 * date.year + 31 * date.month + 31 := by
  have years : ∀ year, daysBeforeYear year ≤ 366 * year := by
    intro year
    induction year with
    | zero => exact Nat.le_refl 0
    | succ year ih =>
      rw [daysBeforeYear, yearLength]
      split_ifs <;> omega
  have months : ∀ month, daysBeforeMonth date.year month ≤ 31 * month := by
    intro month
    induction month with
    | zero => exact Nat.le_refl 0
    | succ month ih =>
      have length := monthLength_le date.year month
      rw [daysBeforeMonth]
      omega
  have day := date.day_le_thirtyOne
  have year := years date.year
  have month := months date.month
  rw [dayNumber]
  omega

/-- Every fourth year has a leap day, except that of the centuries only every fourth has. -/
theorem daysBeforeYear_add_centuries (year : ℕ) :
    daysBeforeYear year + (year + 99) / 100 = 365 * year + (year + 3) / 4 + (year + 399) / 400 := by
  induction year with
  | zero => rfl
  | succ year ih =>
    rw [daysBeforeYear, yearLength]
    -- the quotients move exactly at the years the rule of `IsLeap` asks about
    by_cases leap : IsLeap year
    · rw [if_pos leap]
      unfold IsLeap at leap
      omega
    · rw [if_neg leap]
      unfold IsLeap at leap
      omega

/-- The days before a month, counting from March and adding January and February. -/
theorem daysBeforeMonth_of_gt {year month : ℕ} (later : 2 < month) (small : month ≤ 12) :
    daysBeforeMonth year month =
      (153 * (month - 3) + 2) / 5 + 59 + (if IsLeap year then 1 else 0) := by
  interval_cases month <;> simp only [daysBeforeMonth, monthLength] <;> split_ifs <;> rfl

theorem daysBeforeMonth_mono (year : ℕ) : Monotone (daysBeforeMonth year) :=
  monotone_nat_of_le_succ fun _ => Nat.le_add_right _ _

/-- The months make up the year. -/
theorem daysBeforeMonth_thirteen (year : ℕ) : daysBeforeMonth year 13 = yearLength year := by
  have december : monthLength year 12 = 31 := rfl
  rw [daysBeforeMonth, december, daysBeforeMonth_of_gt (by omega) le_rfl, yearLength]
  split_ifs <;> rfl

end Gregorian
