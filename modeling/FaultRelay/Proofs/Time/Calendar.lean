import FaultRelay.Time.Calendar
import Mathlib.Tactic.Common
import Mathlib.Tactic.IntervalCases

/-!
# Days and dates

A day has a place in its era of 400 years: a year of the era and a month of that year, both counted
from March, and the days of the month before it.

**Results.**
* `yearOfEra_spec`: which year of an era a day of it falls in.
* `Date.exists_place`: the place of a day, from which its date is made.
* `Date.dayNumber_ofDayNumber`: the date of a day has the number of that day.
* `Date.valid_ofDayNumber`: the date of a day exists, in the years of the calendar.
-/

namespace FaultRelay
namespace Time

/-! ### Years of an era -/

/-- The days of an era before a year of it. -/
def daysBeforeYear (year : Nat) : Nat :=
  365 * year + year / 4 - year / 100 + year / 400

/-- The year in which a day of an era falls. -/
def yearOfEra (day : Nat) : Nat :=
  (day - day / 1460 + day / 36524 - day / 146096) / 365

theorem isLeap_iff (year : Int) :
    isLeap year = true ↔ 4 ∣ year ∧ (¬100 ∣ year ∨ 400 ∣ year) := by
  simp only [isLeap, Bool.and_eq_true, Bool.or_eq_true, beq_iff_eq, bne_iff_ne]
  omega

/-- Eras have the same leap years. -/
theorem isLeap_add_era (year era : Int) : isLeap (year + era * 400) = isLeap year := by
  have h4 : (4 : Int) ∣ year + era * 400 ↔ 4 ∣ year := by omega
  have h100 : (100 : Int) ∣ year + era * 400 ↔ 100 ∣ year := by omega
  have h400 : (400 : Int) ∣ year + era * 400 ↔ 400 ∣ year := by omega
  rw [Bool.eq_iff_iff, isLeap_iff, isLeap_iff, h4, h100, h400]

/-- A year that begins in March has the leap day of the year that comes next. -/
theorem daysBeforeYear_succ (year : Nat) :
    daysBeforeYear (year + 1) =
      daysBeforeYear year + if isLeap (year + 1 : Nat) then 366 else 365 := by
  have h4 : (4 : Int) ∣ (year + 1 : Nat) ↔ 4 ∣ year + 1 := by omega
  have h100 : (100 : Int) ∣ (year + 1 : Nat) ↔ 100 ∣ year + 1 := by omega
  have h400 : (400 : Int) ∣ (year + 1 : Nat) ↔ 400 ∣ year + 1 := by omega
  have hcentury : 100 ∣ year + 1 → 4 ∣ year + 1 := Nat.dvd_trans (by decide)
  have hera : 400 ∣ year + 1 → 100 ∣ year + 1 := Nat.dvd_trans (by decide)
  have hle : year / 100 ≤ year := Nat.div_le_self ..
  simp only [daysBeforeYear, isLeap_iff, h4, h100, h400, Nat.succ_div]
  generalize year / 4 = fours at *
  generalize year / 100 = centuries at *
  generalize year / 400 = eras at *
  split_ifs <;> omega

/-- Within one century the year is found by counting the leap days before. -/
theorem century_spec
    {day century : Nat} (hcentury : century ≤ 3) (hfrom : 36524 * century ≤ day)
    (hto : day < 36524 * (century + 1)) :
    let year := (day - day / 1460 + century) / 365
    year / 100 = century ∧ 365 * year + year / 4 ≤ day + century ∧
      day + century < 365 * (year + 1) + (year + 1) / 4 := by
  intro year
  have hyear : year = (day - day / 1460 + century) / 365 := rfl
  refine ⟨?_, ?_, ?_⟩
  · interval_cases century <;> omega
  · interval_cases century <;> omega
  · interval_cases century <;> omega

theorem yearOfEra_spec {day : Nat} (h : day < 146097) :
    yearOfEra day < 400 ∧ daysBeforeYear (yearOfEra day) ≤ day ∧
      day < daysBeforeYear (yearOfEra day + 1) := by
  by_cases hlast : day = 146096
  · subst hlast
    decide
  · have hcentury : day / 36524 ≤ 3 := by omega
    have hera : day / 146096 = 0 := by omega
    have hdays : day < 36524 * (day / 36524 + 1) := by omega
    obtain ⟨hyears, hfrom, hto⟩ := century_spec hcentury (by omega) hdays
    have hyear : yearOfEra day = (day - day / 1460 + day / 36524) / 365 := by
      rw [yearOfEra, hera, Nat.sub_zero]
    rw [← hyear] at hyears hfrom hto
    generalize yearOfEra day = year at *
    generalize day / 36524 = century at *
    simp only [daysBeforeYear]
    refine ⟨by omega, by omega, ?_⟩
    by_cases hends : year + 1 = 100 * (century + 1)
    · rw [hends]
      omega
    · have hsame : (year + 1) / 100 = century := by omega
      omega

/-! ### Months of a year -/

/-- The month in which a day of a year falls. -/
def monthOfDay (day : Nat) : Nat :=
  (5 * day + 2) / 153

theorem monthOfDay_spec {day : Nat} (h : day ≤ 365) :
    monthOfDay day ≤ 11 ∧ daysBeforeMonth (monthOfDay day) ≤ day ∧
      day < daysBeforeMonth (monthOfDay day + 1) := by
  simp only [monthOfDay, daysBeforeMonth]
  omega

/-- A month has as many days as there are from its beginning to that of the next one. -/
theorem daysBeforeMonth_succ
    {month : Nat} (hmonth : month ≤ 10) (year : Int) :
    daysBeforeMonth (month + 1) =
      daysBeforeMonth month + daysInMonth year (if month < 10 then month + 3 else month - 9) := by
  interval_cases month <;> rfl

/-! ### The place of a day -/

namespace Date

/-- The date at a place: a year of an era, a month of that year, and days of that month before. -/
def ofPlace (era : Int) (year month day : Nat) : Date :=
  let monthOfYear := if month < 10 then month + 3 else month - 9
  ⟨year + era * 400 + (if monthOfYear ≤ 2 then 1 else 0), monthOfYear, day + 1⟩

/-- The number of the day at a place. -/
def placeNumber (era : Int) (year month day : Nat) : Int :=
  era * 146097 + (daysBeforeYear year + daysBeforeMonth month + day : Nat) - 719468

section Place

variable (era : Int) {year month day : Nat}

theorem dayNumber_ofPlace (hyear : year < 400) (hmonth : month ≤ 11) :
    (ofPlace era year month day).dayNumber = placeNumber era year month day := by
  have hera : ((year : Int) + era * 400).fdiv 400 = era := by
    rw [Int.fdiv_eq_ediv_of_nonneg _ (by decide)]
    omega
  have hyears : (daysBeforeYear year : Int) = year * 365 + year / 4 - year / 100 := by
    rw [daysBeforeYear]
    omega
  by_cases hlate : month < 10
  · have hmonthOfYear : ¬month + 3 ≤ 2 := by omega
    simp only [dayNumber, ofPlace, placeNumber, if_pos hlate, if_neg hmonthOfYear, Int.add_zero,
      hera, Nat.add_sub_cancel, add_sub_cancel_right, Nat.cast_add, hyears]
    omega
  · have hmonthOfYear : month - 9 ≤ 2 := by omega
    have hmonthBack : month - 9 + 9 = month := by omega
    simp only [dayNumber, ofPlace, placeNumber, if_neg hlate, if_pos hmonthOfYear,
      hera, hmonthBack, add_sub_cancel_right, Nat.cast_add, hyears]
    omega

theorem valid_ofPlace (hmonth : month ≤ 11)
    (hmonthEnds : daysBeforeMonth month + day < daysBeforeMonth (month + 1))
    (hyearEnds : daysBeforeYear year + (daysBeforeMonth month + day) < daysBeforeYear (year + 1))
    (hrange : yearRange.1 ≤ (ofPlace era year month day).year ∧
      (ofPlace era year month day).year ≤ yearRange.2) :
    (ofPlace era year month day).valid = true := by
  have hmonths : 1 ≤ (ofPlace era year month day).month ∧
      (ofPlace era year month day).month ≤ 12 := by
    simp only [ofPlace]
    split <;> omega
  have hdays : day + 1 ≤ daysInMonth (ofPlace era year month day).year
      (ofPlace era year month day).month := by
    by_cases hlast : month = 11
    · subst hlast
      rw [daysBeforeYear_succ] at hyearEnds
      have hbefore : daysBeforeMonth 11 = 337 := rfl
      have hleap : isLeap ((year : Int) + era * 400 + 1) = isLeap (year + 1 : Nat) := by
        rw [Int.add_right_comm, isLeap_add_era, Int.natCast_succ]
      change day + 1 ≤ if isLeap ((year : Int) + era * 400 + 1) then 29 else 28
      rw [hleap]
      split at hyearEnds
      · next h =>
          rw [if_pos h]
          omega
      · next h =>
          rw [if_neg h]
          omega
    · have hsucc := daysBeforeMonth_succ (by omega : month ≤ 10) (ofPlace era year month day).year
      rw [hsucc] at hmonthEnds
      exact Nat.add_lt_add_iff_left.mp hmonthEnds
  simp only [valid, Bool.and_eq_true, decide_eq_true_iff]
  exact ⟨⟨⟨⟨hrange, hmonths.1⟩, hmonths.2⟩, Nat.le_add_left ..⟩, hdays⟩

end Place

/-- The place of a day. -/
theorem exists_place (n : Int) :
    ∃ (era : Int) (year month day : Nat), year < 400 ∧ month ≤ 11 ∧
      daysBeforeMonth month + day < daysBeforeMonth (month + 1) ∧
      daysBeforeYear year + (daysBeforeMonth month + day) < daysBeforeYear (year + 1) ∧
      placeNumber era year month day = n ∧ ofDayNumber n = ofPlace era year month day := by
  have hera : 0 ≤ n + 719468 - (n + 719468).fdiv 146097 * 146097 ∧
      n + 719468 - (n + 719468).fdiv 146097 * 146097 < 146097 := by
    rw [Int.fdiv_eq_ediv_of_nonneg _ (by decide)]
    omega
  obtain ⟨dayOfEra, hday⟩ := Int.eq_ofNat_of_zero_le hera.1
  obtain ⟨hyear, hfrom, hto⟩ := yearOfEra_spec (by omega : dayOfEra < 146097)
  obtain ⟨dayOfYear, hplace⟩ := Nat.exists_eq_add_of_le hfrom
  have hlength := daysBeforeYear_succ (yearOfEra dayOfEra)
  obtain ⟨hmonth, hmonthFrom, hmonthTo⟩ :=
    monthOfDay_spec (by split at hlength <;> omega : dayOfYear ≤ 365)
  refine ⟨(n + 719468).fdiv 146097, yearOfEra dayOfEra, monthOfDay dayOfYear,
    dayOfYear - daysBeforeMonth (monthOfDay dayOfYear), hyear, hmonth, by omega, by omega, ?_, ?_⟩
  · rw [placeNumber]
    omega
  · have hbefore : 365 * yearOfEra dayOfEra + yearOfEra dayOfEra / 4 - yearOfEra dayOfEra / 100 =
        daysBeforeYear (yearOfEra dayOfEra) := by
      rw [daysBeforeYear, Nat.div_eq_of_lt hyear, Nat.add_zero]
    have hrest : dayOfEra - daysBeforeYear (yearOfEra dayOfEra) = dayOfYear := by omega
    have hnat : (n + 719468 - (n + 719468).fdiv 146097 * 146097).toNat = dayOfEra := by
      rw [hday]
      rfl
    rw [yearOfEra] at hbefore hrest
    simp only [ofDayNumber, hnat, hbefore, hrest, ofPlace]
    rfl

/-- The date of a day has the number of that day. -/
theorem dayNumber_ofDayNumber (n : Int) : (ofDayNumber n).dayNumber = n := by
  obtain ⟨era, year, month, day, hyear, hmonth, -, -, hnumber, hdate⟩ := exists_place n
  rw [hdate, dayNumber_ofPlace era hyear hmonth, hnumber]

/-- The date of a day exists, in the years of the calendar. -/
theorem valid_ofDayNumber
    {n : Int} (h : yearRange.1 ≤ (ofDayNumber n).year ∧ (ofDayNumber n).year ≤ yearRange.2) :
    (ofDayNumber n).valid = true := by
  obtain ⟨era, year, month, day, -, hmonth, hmonthEnds, hyearEnds, -, hdate⟩ := exists_place n
  rw [hdate] at h ⊢
  exact valid_ofPlace era hmonth hmonthEnds hyearEnds h

/-- The month and the day of a date that exists have at most two digits. -/
theorem lt_of_valid {d : Date} (h : d.valid = true) : d.month < 100 ∧ d.day < 100 := by
  simp only [valid, Bool.and_eq_true, decide_eq_true_iff] at h
  obtain ⟨⟨⟨-, hmonth⟩, -⟩, hday⟩ := h
  have hlength : daysInMonth d.year d.month ≤ 31 := by
    unfold daysInMonth
    split
    · split <;> decide
    all_goals decide
  omega

end Date

end Time
end FaultRelay
