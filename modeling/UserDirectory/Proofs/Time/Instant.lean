import UserDirectory.Proofs.Time.Date
import UserDirectory.Proofs.Time.Reading

/-!
# Instants read back

The text of an instant spells its date and time of day in UTC, and reading that text gives the
instant again: in every year of the range, with every fraction of a second, and in leap seconds.
-/

namespace UserDirectory

namespace Instant

open LocalTime

/-! ## Parts of the text -/

theorem isDigits_padded (width n : Nat) : IsDigits (Digits.padded width n) :=
  ⟨Digits.padded_ne_nil width n, fun _ => Digits.isDigit_of_mem_padded⟩

theorem year_yearText (year : Int) : YearText year (yearText year) := by
  unfold yearText
  split
  · next hfour =>
    have hnat : ((year.toNat : Nat) : Int) = year := Int.toNat_of_nonneg hfour.1
    have hlen : (Digits.padded 4 year.toNat).length ≤ 4 := by
      rw [Digits.length_padded (by decide) (show year.toNat < 10000 by omega)]
    have h := YearText.bare ⟨isDigits_padded 4 year.toNat, hlen, Digits.value_padded 4 _⟩
    rwa [hnat] at h
  · split
    · next hneg =>
      have h := YearText.minus (isDigits_padded 4 year.natAbs)
      rwa [Digits.value_padded, show -(year.natAbs : Int) = year by omega] at h
    · next hwide hpos =>
      have h := YearText.plus (isDigits_padded 4 year.natAbs)
      rwa [Digits.value_padded, show (year.natAbs : Int) = year by omega] at h

theorem field_padded {low high n : Nat} (hlow : low ≤ n) (hhigh : n ≤ high) (h : n < 100) :
    FieldText low high n (Digits.padded 2 n) :=
  ⟨[], _, Spaces.nil, ⟨isDigits_padded 2 n, (Digits.length_padded (by decide) h).le,
    Digits.value_padded 2 n⟩, hlow, hhigh, rfl⟩

theorem fieldAfter_padded (c : Char) {low high n : Nat} (hlow : low ≤ n) (hhigh : n ≤ high)
    (h : n < 100) : FieldAfterText c low high n (c :: Digits.padded 2 n) :=
  ⟨[], _, Spaces.nil, field_padded hlow hhigh h, rfl⟩

theorem date_dateText {d : Date} (h : d.Exists)
    (hyear : -2147483648 ≤ d.year ∧ d.year ≤ 2147483647) : DateText d (dateText d) := by
  obtain ⟨hmonth, hmonth', hday, hlength⟩ := h
  have hday' : d.day ≤ 31 := hlength.trans (Date.monthLength_le _ _)
  refine ⟨[], _, _, _, Spaces.nil, year_yearText d.year, hyear,
    fieldAfter_padded '-' hmonth hmonth' (by omega),
    fieldAfter_padded '-' hday hday' (by omega), ?_⟩
  simp [dateText]

/-- A fraction of `width` digits counts units of `10 ^ (9 - width)` nanoseconds. -/
theorem fraction_padded {width n : Nat} (hpos : 0 < width) (hnine : width ≤ 9)
    (h : n < Nat.pow 10 width) :
    FractionText (n * Nat.pow 10 (9 - width)) ('.' :: Digits.padded width n) := by
  have hlen : (Digits.padded width n).length = width := Digits.length_padded hpos h
  have hfraction := FractionText.digits (isDigits_padded width n)
  rwa [List.take_of_length_le (hlen.symm ▸ hnine), hlen, Digits.value_padded] at hfraction

theorem fraction_fractionText {nanos : Nat} (h : nanos < 1000000000) :
    FractionText nanos (fractionText nanos) := by
  unfold fractionText
  split
  · next hzero => exact hzero ▸ .absent
  split
  · next hmilli =>
    have hf := @fraction_padded 3 (nanos / 1000000) (by decide) (by decide)
      (show nanos / 1000000 < 1000 by omega)
    rwa [show nanos / 1000000 * Nat.pow 10 (9 - 3) = nanos from
      Nat.div_mul_cancel (Nat.dvd_of_mod_eq_zero hmilli)] at hf
  split
  · next hmicro =>
    have hf := @fraction_padded 6 (nanos / 1000) (by decide) (by decide)
      (show nanos / 1000 < 1000000 by omega)
    rwa [show nanos / 1000 * Nat.pow 10 (9 - 6) = nanos from
      Nat.div_mul_cancel (Nat.dvd_of_mod_eq_zero hmicro)] at hf
  · have hf := @fraction_padded 9 nanos (by decide) (by decide) h
    rwa [show nanos * Nat.pow 10 (9 - 9) = nanos from Nat.mul_one nanos] at hf

/-! ## The whole text -/

/-- The date and time of day of an instant in UTC. -/
def utc (t : Instant) : LocalTime where
  date := Date.ofDays (t.seconds / 86400)
  hour := (t.seconds % 86400).toNat / 3600
  minute := (t.seconds % 86400).toNat / 60 % 60
  second := (t.seconds % 86400).toNat % 60 + (if t.leap then 1 else 0)
  nanos := t.nanos
  offset := 0

theorem year_utc (t : Instant) : -262143 ≤ t.utc.date.year ∧ t.utc.date.year ≤ 262142 := by
  have hearly := t.earliest_le
  have hlate := t.le_latest
  exact Date.year_ofDays (by omega) (by omega)

/-- The second of the minute is 60 in a leap second and less otherwise. -/
theorem second_utc (t : Instant) :
    t.utc.second ≤ 60 ∧ (60 ≤ t.utc.second ↔ t.leap = true) ∧
      (min t.utc.second 59 : Nat) = t.seconds % 60 := by
  have hlast := t.leap_last
  unfold utc
  cases hleap : t.leap with
  | false =>
    simp only [Bool.false_eq_true, if_false, iff_false]
    omega
  | true =>
    have hlast := hlast hleap
    simp only [if_true, iff_true]
    omega

theorem text_utc (t : Instant) : t.utc.Text t.text := by
  have hyear := t.year_utc
  refine ⟨_, 'T', _, _, _, _, [], ['Z'], [],
    date_dateText (Date.exists_ofDays _) ⟨by omega, by omega⟩, .inl rfl,
    field_padded (Nat.zero_le _) ?_ ?_, fieldAfter_padded ':' (Nat.zero_le _) ?_ ?_,
    fieldAfter_padded ':' (Nat.zero_le _) t.second_utc.1 ?_, fraction_fractionText t.nanos_lt,
    Spaces.nil, .zulu (.inl rfl), Spaces.nil, ?_⟩
  · show (t.seconds % 86400).toNat / 3600 ≤ 23
    omega
  · show (t.seconds % 86400).toNat / 3600 < 100
    omega
  · show (t.seconds % 86400).toNat / 60 % 60 ≤ 59
    omega
  · show (t.seconds % 86400).toNat / 60 % 60 < 100
    omega
  · have := t.second_utc.1
    omega
  · simp [text, utc]

theorem denotes_utc (t : Instant) : t.utc.Denotes t := by
  obtain ⟨-, hleap, hmin⟩ := t.second_utc
  have hoffset : (0 : Int).natAbs < 1440 := by decide
  refine ⟨Date.exists_ofDays _, t.year_utc, hoffset, ?_, rfl, hleap.symm⟩
  rw [utcSeconds, hmin]
  show t.seconds = ((Date.ofDays (t.seconds / 86400)).toDays * 1440
    + ((t.seconds % 86400).toNat / 3600 : Nat) * 60
    + ((t.seconds % 86400).toNat / 60 % 60 : Nat) - 0) * 60 + t.seconds % 60
  rw [Date.toDays_ofDays]
  omega

/-- Reading the text of an instant gives the instant. -/
theorem read_text (t : Instant) : Instant.read t.text = .ok t :=
  read_eq_ok_iff.mpr ⟨t.utc, t.text_utc, t.denotes_utc⟩

end Instant

end UserDirectory
