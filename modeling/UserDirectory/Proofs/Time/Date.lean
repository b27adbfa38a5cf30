import UserDirectory.Time.Date

/-!
# The calendar round trip

`Date.ofDays` names for every day a date that exists, and `Date.toDays` counts back to that day.

## How the days are taken apart

An era of 400 years has 146097 days. Its days split into centuries of 36524 days, spans of four
years of 1461 days, years of 365 days, and a day of the year that begins in March
(`exists_eraParts`). Only the last year of a span has a 366th day, and the last span of a century
only at the end of the era. From that on everything is linear.
-/

namespace UserDirectory.Date

/-! ## Years and months -/

theorem isLeapYear_iff (year : Int) :
    isLeapYear year = true ↔ year % 4 = 0 ∧ (year % 100 ≠ 0 ∨ year % 400 = 0) := by
  simp [isLeapYear]

theorem monthLength_le (year : Int) (month : Nat) : monthLength year month ≤ 31 := by
  unfold monthLength
  split
  · split <;> decide
  · split <;> decide

/-! ## The year of an era -/

/-- The year of the era that a day of the era belongs to. -/
def yearOfEra (n : Nat) : Nat := (n - n / 1460 + n / 36524 - n / 146096) / 365

/-- A day of the era in terms of centuries, spans of four years, years and days. -/
structure IsEraDay (c q y d : Nat) : Prop where
  century : c ≤ 3
  span : q ≤ 24
  year : y ≤ 3
  day : d ≤ 365
  /-- The 366th day of a year is a leap day. -/
  leap : d = 365 → y = 3 ∧ (q < 24 ∨ c = 3)

theorem exists_eraParts {n : Nat} (h : n < 146097) :
    ∃ c q y d, IsEraDay c q y d ∧ n = 36524 * c + 1461 * q + 365 * y + d := by
  by_cases hlast : n = 146096
  · exact ⟨3, 24, 3, 365, ⟨by omega, by omega, by omega, by omega, by omega⟩, by omega⟩
  · by_cases hleap : n % 36524 % 1461 = 1460
    · exact ⟨n / 36524, n % 36524 / 1461, 3, 365,
        ⟨by omega, by omega, by omega, by omega, by omega⟩, by omega⟩
    · exact ⟨n / 36524, n % 36524 / 1461, n % 36524 % 1461 / 365, n % 36524 % 1461 % 365,
        ⟨by omega, by omega, by omega, by omega, by omega⟩, by omega⟩

theorem yearOfEra_eq {c q y d : Nat} (h : IsEraDay c q y d) :
    yearOfEra (36524 * c + 1461 * q + 365 * y + d) = 100 * c + 4 * q + y := by
  obtain ⟨hc, hq, hy, hd, hleap⟩ := h
  generalize hn : 36524 * c + 1461 * q + 365 * y + d = n
  have hcentury : n / 36524 - n / 146096 = c := by omega
  have hmono : n / 146096 ≤ n / 36524 := by omega
  -- 1460 days come once more often than spans, in the last year of some spans
  have hspan : n / 1460 = 25 * c + q + (if 1460 ≤ 24 * c + q + 365 * y + d then 1 else 0) := by
    split <;> omega
  unfold yearOfEra
  rw [Nat.add_sub_assoc hmono, hcentury, hspan, ← hn]
  clear hn hcentury hmono hspan
  split <;> omega

/-! ## Years that begin in March -/

/-- The date of a day of the year that begins in March. -/
def ofMarchYear (year : Int) (day : Nat) : Date :=
  let month := (5 * day + 2) / 153
  { year := year + (if month < 10 then 0 else 1)
    month := if month < 10 then month + 3 else month - 9
    day := day - (153 * month + 2) / 5 + 1 }

/-- Every day lies in a year that begins in March. -/
theorem ofDays_eq (days : Int) :
    ∃ (era : Int) (c q y d : Nat), IsEraDay c q y d ∧
      days + epochShift = 146097 * era + (36524 * c + 1461 * q + 365 * y + d : Nat) ∧
      ofDays days = ofMarchYear (400 * era + (100 * c + 4 * q + y : Nat)) d := by
  have hlt : ((days + epochShift) % 146097).toNat < 146097 := by omega
  obtain ⟨c, q, y, d, hpart, hn⟩ := exists_eraParts hlt
  refine ⟨(days + epochShift) / 146097, c, q, y, d, hpart, by omega, ?_⟩
  have hyear := yearOfEra_eq hpart
  rw [← hn] at hyear
  have hday : ((days + epochShift) % 146097).toNat
      - (365 * (100 * c + 4 * q + y) + (100 * c + 4 * q + y) / 4 - (100 * c + 4 * q + y) / 100)
      = d := by
    have := hpart.span
    have := hpart.year
    have h4 : (100 * c + 4 * q + y) / 4 = 25 * c + q := by omega
    have h100 : (100 * c + 4 * q + y) / 100 = c := by omega
    rw [h4, h100, hn]
    omega
  unfold yearOfEra at hyear
  unfold ofDays ofMarchYear
  simp only [hyear, hday, Int.mul_comm]

/-- The days to a date of a year that begins in March. -/
theorem toDays_ofMarchYear (year : Int) {day : Nat} (h : day ≤ 365) :
    (ofMarchYear year day).toDays
      = 365 * year + year / 4 - year / 100 + year / 400 + day - epochShift := by
  unfold toDays ofMarchYear
  generalize hm : (5 * day + 2) / 153 = m
  have hle : (153 * m + 2) / 5 ≤ day := by omega
  by_cases hlt : m < 10
  · have hmonth : (m + 3 + 9) % 12 = m := by omega
    have hyear : ¬ m + 3 ≤ 2 := by omega
    simp only [if_pos hlt, hmonth, if_neg hyear, Int.add_zero]
    omega
  · have hmonth : (m - 9 + 9) % 12 = m := by omega
    have hyear : m - 9 ≤ 2 := by omega
    simp only [if_neg hlt, hmonth, if_pos hyear, Int.add_sub_cancel]
    omega

theorem exists_ofMarchYear {year : Int} {day : Nat} (h : day ≤ 365)
    (hleap : day = 365 → isLeapYear (year + 1) = true) : (ofMarchYear year day).Exists := by
  unfold Exists ofMarchYear monthLength
  generalize hm : (5 * day + 2) / 153 = m
  by_cases hlt : m < 10
  · have h2 : ¬ m + 3 = 2 := by omega
    simp only [if_pos hlt, if_neg h2]
    refine ⟨by omega, by omega, by omega, ?_⟩
    split <;> omega
  · simp only [if_neg hlt]
    refine ⟨by omega, by omega, by omega, ?_⟩
    split
    · split
      · omega
      · next hno =>
        have : day ≠ 365 := fun hd => hno (hleap hd)
        omega
    · split <;> omega

/-! ## All days -/

/-- **Counting the days to the date of a day gives the day.** -/
theorem toDays_ofDays (days : Int) : (ofDays days).toDays = days := by
  obtain ⟨era, c, q, y, d, h, hdays, hdate⟩ := ofDays_eq days
  obtain ⟨hc, hq, hy, hd, -⟩ := h
  rw [hdate, toDays_ofMarchYear _ hd]
  have h4 : (400 * era + (100 * c + 4 * q + y : Nat)) / 4 = 100 * era + 25 * c + q := by omega
  have h100 : (400 * era + (100 * c + 4 * q + y : Nat)) / 100 = 4 * era + c := by omega
  have h400 : (400 * era + (100 * c + 4 * q + y : Nat)) / 400 = era := by omega
  rw [h4, h100, h400]
  omega

/-- **The date of a day exists.** -/
theorem exists_ofDays (days : Int) : (ofDays days).Exists := by
  obtain ⟨era, c, q, y, d, h, -, hdate⟩ := ofDays_eq days
  rw [hdate]
  refine exists_ofMarchYear h.day fun hd => ?_
  obtain ⟨rfl, hspan⟩ := h.leap hd
  have hq := h.span
  rw [isLeapYear_iff]
  omega

/-- A date of a year that begins in March lies in that year or, from January on, in the next. -/
theorem year_ofMarchYear (year : Int) {day : Nat} (h : day ≤ 365) :
    (ofMarchYear year day).year = if day < 306 then year else year + 1 := by
  show year + (if (5 * day + 2) / 153 < 10 then 0 else 1) = _
  split <;> split <;> omega

/-- The days from -262143-01-01 to 262142-12-31 have dates in those years. -/
theorem year_ofDays {days : Int} (hlow : -96465292 ≤ days) (hhigh : days ≤ 95026236) :
    -262143 ≤ (ofDays days).year ∧ (ofDays days).year ≤ 262142 := by
  obtain ⟨era, c, q, y, d, h, hdays, hdate⟩ := ofDays_eq days
  rw [hdate, year_ofMarchYear _ h.day]
  rw [epochShift] at hdays
  obtain ⟨hc, hq, hy, hd, -⟩ := h
  split
  · omega
  · refine ⟨by omega, Int.not_lt.mp fun hlate => ?_⟩
    -- a later year would begin in the second century of its era
    have hera : era = 655 := by omega
    have hcentury : c = 1 := by omega
    omega

end UserDirectory.Date
