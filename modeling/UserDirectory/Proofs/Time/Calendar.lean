import Mathlib.Tactic.IntervalCases
import UserDirectory.Proofs.Time.Date

/-!
# The calendar, counted month by month

`Date.toDays` counts the days to a date with a formula for years that begin in March. Here they are
counted the way a calendar is leafed through: year by year from the beginning of year 0, in the year
of the date month by month, and in its month day by day. `Date.toDays_eq` says that the formula
gives that count.
-/

namespace UserDirectory.Date

/-- The days of the first months of a year. -/
def daysOfMonths (year : Int) : Nat → Nat
  | 0 => 0
  | month + 1 => daysOfMonths year month + monthLength year (month + 1)

/-- The days of the years from 0 on, up to the given year and without it. -/
def daysOfYears : Nat → Nat
  | 0 => 0
  | year + 1 => daysOfYears year + daysOfMonths year 12

/-- The place of a date in the calendar, where 0000-01-01 is the first day. -/
def ordinal (year month day : Nat) : Nat :=
  daysOfYears year + daysOfMonths year (month - 1) + day

/-! ## Years -/

/-- A year has 365 days, and a leap year has one more. -/
theorem daysOfMonths_twelve (year : Int) :
    daysOfMonths year 12 = if isLeapYear year then 366 else 365 := by
  cases h : isLeapYear year with
  | false => simp [daysOfMonths, monthLength, h]
  | true => simp [daysOfMonths, monthLength, h]

example : daysOfMonths 1900 12 = 365 ∧ daysOfMonths 2000 12 = 366 := by decide

/-- Of the years before a given one every fourth is a leap year, of the centuries every fourth. -/
theorem daysOfYears_eq (year : Nat) :
    daysOfYears year = 365 * year + (year + 3) / 4 - (year + 99) / 100 + (year + 399) / 400 := by
  induction year with
  | zero => rfl
  | succ year ih =>
    rw [daysOfYears, ih, daysOfMonths_twelve]
    have hleap := isLeapYear_iff year
    split
    · next h =>
      obtain ⟨hfour, hcentury⟩ := hleap.mp h
      omega
    · next h =>
      have := mt hleap.mpr h
      omega

/-- After February as many leap days have passed as there are leap years up to the year itself. -/
theorem daysOfYears_add_february (year : Nat) :
    daysOfYears year + (if isLeapYear year then 60 else 59)
      = 365 * year + year / 4 - year / 100 + year / 400 + 60 := by
  have hnext := daysOfYears_eq (year + 1)
  rw [daysOfYears, daysOfMonths_twelve] at hnext
  split
  · next h =>
    rw [if_pos h] at hnext
    omega
  · next h =>
    rw [if_neg h] at hnext
    omega

/-! ## Months -/

/-- From March on the months follow a linear rule, behind the days of January and February. -/
theorem daysOfMonths_eq (year : Int) {month : Nat} (hlow : 1 ≤ month) (hhigh : month ≤ 12) :
    daysOfMonths year (month - 1)
      = if month ≤ 2 then (153 * ((month + 9) % 12) + 2) / 5 - 306
        else (153 * ((month + 9) % 12) + 2) / 5 + (if isLeapYear year then 60 else 59) := by
  cases h : isLeapYear year with
  | false => interval_cases month <;> simp [daysOfMonths, monthLength, h]
  | true => interval_cases month <;> simp [daysOfMonths, monthLength, h]

/-! ## Dates -/

theorem ordinal_epoch : ordinal 1970 1 1 = 719529 := by
  rw [ordinal, daysOfYears_eq]
  rfl

/-- **The days from 1970-01-01 to a date are those that the calendar has between the two.** -/
theorem toDays_eq {year month : Nat} (hlow : 1 ≤ month) (hhigh : month ≤ 12) (day : Nat) :
    toDays ⟨year, month, day⟩ = (ordinal year month day : Int) - ordinal 1970 1 1 := by
  rw [ordinal_epoch, ordinal, daysOfMonths_eq year hlow hhigh]
  unfold toDays epochShift
  by_cases hmarch : month ≤ 2
  · have hbehind : 306 ≤ (153 * ((month + 9) % 12) + 2) / 5 := by omega
    rw [if_pos hmarch, daysOfYears_eq]
    simp only [if_pos hmarch]
    generalize (153 * ((month + 9) % 12) + 2) / 5 = behind at hbehind ⊢
    omega
  · have hyears := daysOfYears_add_february year
    rw [if_neg hmarch]
    simp only [if_neg hmarch]
    generalize (153 * ((month + 9) % 12) + 2) / 5 = behind
    generalize (if isLeapYear year then 60 else 59) = february at hyears ⊢
    omega

end UserDirectory.Date
