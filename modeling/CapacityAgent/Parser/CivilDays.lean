/-
# `DaysFromCivil` and the calendar

For which days of an `int` year `DaysFromCivil` has a result, and that the result goes
with the calendar: one more for the next day, less for an earlier day than for a later, and
no integer between two results left out.
-/

import CapacityAgent.Library.Checks
import CapacityAgent.Parser.Instants

namespace CapacityAgent

open Checks Civil Signed

/-- The year is an `int` and `DaysFromCivil` has a result for the day, as no signed
operation overflows. -/
def DaysCounted (d : Day) (days : ℤ) : Prop :=
  Fits 32 d.year ∧ checkedDaysFromCivil d.year d.month.toUInt32 d.day.toUInt32 = .ok days

/-- Where nothing overflows. -/
theorem bounds_of_checkedDaysFromCivil {year days : ℤ} {month day : UInt32}
    (counted : checkedDaysFromCivil year month day = .ok days) :
    -2147483249 ≤ marchYear year month ∧ marchYear year month < 2147483648 := by
  obtain ⟨y, shifted, counted⟩ := bind_eq_ok_iff.mp counted
  obtain ⟨⟨low, high⟩, rfl⟩ := checked_eq_ok_iff.mp shifted
  obtain ⟨dividend, divided, -⟩ := bind_eq_ok_iff.mp counted
  have march : year - (if month ≤ 2 then 1 else 0) = marchYear year month := by
    unfold marchYear
    split_ifs <;> omega
  rw [march] at low high divided
  norm_num at low high
  split_ifs at divided with nonneg
  · omega
  · -- a negative year is corrected before it is divided
    obtain ⟨⟨low, -⟩, -⟩ := checked_eq_ok_iff.mp divided
    norm_num at low
    omega

/-- When a day has a result, and which. -/
theorem daysCounted_iff {d : Day} {days : ℤ} :
    DaysCounted d days ↔ Fits 32 d.year ∧ -2147483249 ≤ marchYear d.year d.month.toUInt32 ∧
      d.number - epochDay = days := by
  rw [← daysFromCivil_number]
  refine and_congr_right fun fits => ⟨fun counted => ?_, ?_⟩
  · obtain ⟨low, high⟩ := bounds_of_checkedDaysFromCivil counted
    refine ⟨low, ?_⟩
    rw [checkedDaysFromCivil_of_bounds low high] at counted
    exact Except.ok.inj counted
  · rintro ⟨low, rfl⟩
    have high : marchYear d.year d.month.toUInt32 < 2147483648 := by
      obtain ⟨-, high⟩ := fits
      norm_num at high
      unfold marchYear
      split_ifs <;> omega
    exact checkedDaysFromCivil_of_bounds low high _

theorem marchYear_eq (d : Day) :
    marchYear d.year d.month.toUInt32 = if d.month ≤ 2 then d.year - 1 else d.year := by
  have early : d.month.toUInt32 ≤ 2 ↔ d.month ≤ 2 := by
    have small := d.month_le
    generalize d.month = month at small
    interval_cases month <;> decide
  unfold marchYear
  simp only [early]

/-- A later day is not in an earlier year, from March on. -/
theorem marchYear_mono {d e : Day} (le : d ≤ e) :
    marchYear d.year d.month.toUInt32 ≤ marchYear e.year e.month.toUInt32 := by
  rcases le.eq_or_lt with rfl | lt
  · exact le_rfl
  · have order := Day.lt_iff.mp lt
    rw [marchYear_eq, marchYear_eq]
    split_ifs <;> omega

/-- The epoch's day. -/
def epoch : Day := Day.ofDate unixEpoch

/-- **`DaysFromCivil` follows the calendar**: it is 0 for the epoch and one more for the next
day, it is strictly increasing in year, month and day, and every integer between two of
its results is one. -/
theorem daysFromCivil_followsCalendar :
    DaysCounted epoch 0 ∧
      (∀ d days, DaysCounted d days → Fits 32 d.next.year → DaysCounted d.next (days + 1)) ∧
      (∀ d e m n, DaysCounted d m → DaysCounted e n → (d < e ↔ m < n)) ∧
      ∀ d e m n days, DaysCounted d m → DaysCounted e n → m ≤ days → days ≤ n →
        ∃ f, DaysCounted f days := by
  refine ⟨⟨by decide, by decide⟩, ?_, ?_, ?_⟩
  · intro d days counted fits
    obtain ⟨-, low, rfl⟩ := daysCounted_iff.mp counted
    have later : d < d.next := by
      rw [← Day.number_lt_iff, Day.number_next]
      omega
    refine daysCounted_iff.mpr ⟨fits, low.trans (marchYear_mono later.le), ?_⟩
    rw [Day.number_next]
    omega
  · intro d e m n first second
    obtain ⟨-, -, rfl⟩ := daysCounted_iff.mp first
    obtain ⟨-, -, rfl⟩ := daysCounted_iff.mp second
    rw [← Day.number_lt_iff]
    omega
  · intro d e m n days first second from_ to_
    obtain ⟨⟨low, -⟩, early, rfl⟩ := daysCounted_iff.mp first
    obtain ⟨⟨-, high⟩, -, rfl⟩ := daysCounted_iff.mp second
    obtain ⟨f, number⟩ := Day.number_surjective (days + epochDay)
    -- the day of the number lies between the two, and so does its year
    have after : d ≤ f := Day.number_le_iff.mp (by omega)
    have before : f ≤ e := Day.number_le_iff.mp (by omega)
    have years : d.year ≤ f.year ∧ f.year ≤ e.year := ⟨Day.year_mono after, Day.year_mono before⟩
    exact ⟨f, daysCounted_iff.mpr ⟨⟨low.trans years.1, years.2.trans_lt high⟩,
      early.trans (marchYear_mono after), by omega⟩⟩

/-- The leap day of a year that 400 divides. -/
def leapDay : Day := ⟨2000, 2, 29, by decide, by decide, by decide, by decide⟩

theorem daysFromCivil_leapDay : DaysCounted leapDay.next 11017 :=
  daysFromCivil_followsCalendar.2.1 leapDay 11016 ⟨by decide, by decide⟩ (by decide)

end CapacityAgent
