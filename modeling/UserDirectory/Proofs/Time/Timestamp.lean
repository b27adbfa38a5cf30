import UserDirectory.Proofs.Except
import UserDirectory.Proofs.Time.Calendar
import UserDirectory.Proofs.Time.Reading

/-!
# Timestamps

The strict form of an instant: `YYYY-MM-DDThh:mm:ss`, a fraction with any number of digits or none,
and `Z` or a sign and `hh:mm`. All numbers have their full width, so that a text of this form is
read in one way only, and what has to be checked are the numbers themselves.

* `Timestamp.Text x s`: the text `s` spells the timestamp `x`
* `Timestamp.Valid x`: there is such a date, such a time of day and such an offset
* `Timestamp.FallsOn x i`: by the calendar, the instant `i` is the local time of `x` less its offset
* `Timestamp.read_eq_ok_iff`: reading accepts exactly the valid timestamps, and gives the instant on
  which they fall
-/

namespace UserDirectory

/-- An offset of local time from UTC. -/
structure Offset where
  /-- Whether local time is behind UTC. -/
  behind : Bool
  hours : Nat
  minutes : Nat
  deriving DecidableEq, Repr

/-- The numbers of a timestamp, and the digits of its fraction. -/
structure Timestamp where
  year : Nat
  month : Nat
  day : Nat
  hour : Nat
  minute : Nat
  second : Nat
  /-- The digits behind the point, of which there may be none. -/
  fraction : List Char
  offset : Offset
  deriving DecidableEq, Repr

open LocalTime

/-! ## Form -/

/-- A number written with exactly so many digits. -/
def Numeral (width n : Nat) (s : List Char) : Prop :=
  IsDigits s ∧ s.length = width ∧ Digits.value s = n

instance (width n : Nat) (s : List Char) : Decidable (Numeral width n s) :=
  inferInstanceAs (Decidable (IsDigits s ∧ s.length = width ∧ Digits.value s = n))

/-- `Z`, or a sign, two digits of hours, a colon and two digits of minutes. The minus sign may be
U+2212. -/
inductive Offset.Text : Offset → List Char → Prop where
  | zulu : Text ⟨false, 0, 0⟩ ['Z']
  | ahead {hours minutes : Nat} {h m : List Char} : Numeral 2 hours h → Numeral 2 minutes m →
      Text ⟨false, hours, minutes⟩ ('+' :: (h ++ ':' :: m))
  | behind {hours minutes : Nat} {c : Char} {h m : List Char} : c = '-' ∨ c = Char.ofNat 0x2212 →
      Numeral 2 hours h → Numeral 2 minutes m → Text ⟨true, hours, minutes⟩ (c :: (h ++ ':' :: m))

/-- What an offset begins with ends the number before it and is no white space. -/
theorem Offset.Text.exists_cons {o : Offset} {s : List Char} (h : o.Text s) :
    ∃ c t, s = c :: t ∧ c.isDigit = false ∧ c ≠ '.' ∧ isWhiteSpace c = false := by
  cases h with
  | zulu => exact ⟨'Z', [], rfl, by decide⟩
  | ahead => exact ⟨'+', _, rfl, by decide⟩
  | behind hc =>
    refine ⟨_, _, rfl, ?_⟩
    rcases hc with rfl | rfl <;> decide

namespace Timestamp

/-- The fraction of a second: nothing, or a point and the digits. -/
inductive FractionDigits : List Char → List Char → Prop where
  | absent : FractionDigits [] []
  | digits {ds : List Char} : IsDigits ds → FractionDigits ds ('.' :: ds)

/-- The text spells the timestamp. -/
def Text (x : Timestamp) (s : List Char) : Prop :=
  ∃ year month day hour minute second fraction offset,
    Numeral 4 x.year year ∧ Numeral 2 x.month month ∧ Numeral 2 x.day day ∧
    Numeral 2 x.hour hour ∧ Numeral 2 x.minute minute ∧ Numeral 2 x.second second ∧
    FractionDigits x.fraction fraction ∧ x.offset.Text offset ∧
    s = year ++ '-' :: (month ++ '-' :: (day ++ 'T' :: (hour ++ ':' :: (minute ++ ':' ::
      (second ++ (fraction ++ offset))))))

/-! ## Meaning -/

/-- There is such a date in the calendar, such a time of day and such an offset. -/
structure Valid (x : Timestamp) : Prop where
  month : 1 ≤ x.month ∧ x.month ≤ 12
  day : 1 ≤ x.day ∧ x.day ≤ Date.monthLength x.year x.month
  hour : x.hour ≤ 23
  minute : x.minute ≤ 59
  /-- Second 60 is a leap second. -/
  second : x.second ≤ 60
  offset_hours : x.offset.hours ≤ 23
  offset_minutes : x.offset.minutes ≤ 59

instance (x : Timestamp) : Decidable x.Valid :=
  decidable_of_iff ((1 ≤ x.month ∧ x.month ≤ 12) ∧
      (1 ≤ x.day ∧ x.day ≤ Date.monthLength x.year x.month) ∧ x.hour ≤ 23 ∧ x.minute ≤ 59 ∧
      x.second ≤ 60 ∧ x.offset.hours ≤ 23 ∧ x.offset.minutes ≤ 59)
    ⟨fun ⟨hmonth, hday, hhour, hminute, hsecond, hhours, hminutes⟩ =>
      ⟨hmonth, hday, hhour, hminute, hsecond, hhours, hminutes⟩,
    fun h => ⟨h.month, h.day, h.hour, h.minute, h.second, h.offset_hours, h.offset_minutes⟩⟩

end Timestamp

/-- The minutes by which local time is ahead of UTC. -/
def Offset.inMinutes (o : Offset) : Int :=
  if o.behind then -(60 * o.hours + o.minutes : Nat) else (60 * o.hours + o.minutes : Nat)

/-- An offset is less than a day when its hours are. -/
theorem Offset.natAbs_inMinutes_lt_iff {o : Offset} (h : o.minutes < 60) :
    o.inMinutes.natAbs < 1440 ↔ o.hours ≤ 23 := by
  unfold Offset.inMinutes
  split <;> omega

namespace Timestamp

/-- The days of the calendar from 1970-01-01 to the date. -/
def days (x : Timestamp) : Int := (Date.ordinal x.year x.month x.day : Int) - Date.ordinal 1970 1 1

/-- The minutes from 1970-01-01T00:00Z to the minute of the timestamp in UTC. -/
def utcMinutes (x : Timestamp) : Int :=
  (x.days * 24 + x.hour) * 60 + x.minute - x.offset.inMinutes

/-- The fraction of the second in nanoseconds, rounded down. -/
def nanos (x : Timestamp) : Nat :=
  Digits.value x.fraction * 1000000000 / Nat.pow 10 x.fraction.length

/-- The instant is the local time less the offset. A leap second counts as part of the second before
it, and is marked. -/
structure FallsOn (x : Timestamp) (i : Instant) : Prop where
  seconds : i.seconds = x.utcMinutes * 60 + (min x.second 59 : Nat)
  nanos : i.nanos = x.nanos
  leap : i.leap = true ↔ x.second = 60

end Timestamp

/-! ## Fractions -/

/-- Nine digits of a fraction are its nanoseconds, rounded down. -/
theorem Digits.value_take_nine {ds : List Char} (hd : ∀ c ∈ ds, c.isDigit = true) :
    value (ds.take 9) * Nat.pow 10 (9 - (ds.take 9).length)
      = value ds * 1000000000 / Nat.pow 10 ds.length := by
  by_cases hlen : ds.length ≤ 9
  · have hpow : 1000000000 = Nat.pow 10 (9 - ds.length) * Nat.pow 10 ds.length := by
      have hadd := Nat.pow_add 10 (9 - ds.length) ds.length
      rwa [Nat.sub_add_cancel hlen] at hadd
    have hpos : 0 < Nat.pow 10 ds.length := Nat.pow_pos (by decide)
    rw [List.take_of_length_le hlen, hpow, ← Nat.mul_assoc, Nat.mul_div_cancel _ hpos]
  · have hpow : Nat.pow 10 ds.length = Nat.pow 10 (ds.length - 9) * 1000000000 := by
      have hadd := Nat.pow_add 10 (ds.length - 9) 9
      rwa [Nat.sub_add_cancel (by omega)] at hadd
    have hsplit := value_append (ds.take 9) (ds.drop 9)
    -- the digits that do not count are worth less than one nanosecond
    have hlow : value (ds.drop 9) < Nat.pow 10 (ds.drop 9).length :=
      value_lt fun c hc => hd c (List.mem_of_mem_drop hc)
    rw [List.take_append_drop, List.length_drop, Nat.mul_comm] at hsplit
    rw [List.length_drop] at hlow
    rw [List.length_take_of_le (by omega), Nat.sub_self, hpow,
      Nat.mul_div_mul_right _ _ (by decide), hsplit, Nat.mul_add_div (Nat.zero_lt_of_lt hlow),
      Nat.div_eq_of_lt hlow]
    exact Nat.mul_one _

namespace Timestamp

variable {x : Timestamp}

theorem fractionText_nanos {f : List Char} (hf : FractionDigits x.fraction f) :
    FractionText x.nanos f := by
  unfold nanos
  generalize x.fraction = ds at hf
  cases hf with
  | absent => exact .absent
  | digits hd =>
    rw [← Digits.value_take_nine hd.2]
    exact .digits hd

theorem nanos_lt {f : List Char} (hf : FractionDigits x.fraction f) : x.nanos < 1000000000 := by
  have hd : ∀ c ∈ x.fraction, c.isDigit = true := by
    generalize x.fraction = ds at hf
    cases hf with
    | absent => simp
    | digits hd => exact hd.2
  have hpos : 0 < Nat.pow 10 x.fraction.length := Nat.pow_pos (by decide)
  unfold nanos
  rw [Nat.div_lt_iff_lt_mul hpos, Nat.mul_comm]
  exact Nat.mul_lt_mul_of_pos_left (Digits.value_lt hd) (by decide)

end Timestamp

/-! ## Reading -/

namespace LocalTime

theorem readField_numeral {low high n : Nat} {ds : List Char} (h : Numeral 2 n ds)
    (r : List Char) :
    readField low high (ds ++ r)
      = if low ≤ n ∧ n ≤ high then .ok (n, r) else .error .outOfRange := by
  obtain ⟨hd, hlen, hvalue⟩ := h
  obtain ⟨c, s, rfl, hc⟩ := hd.exists_cons
  have hskip : skip (c :: s ++ r) = c :: s ++ r := skip_append .nil (not_space_of_isDigit hc)
  unfold readField
  rw [hskip, readNumber_eq_ok ⟨hd, hlen.le, hvalue⟩ (.inl hlen)]
  rfl

theorem readFieldAfter_numeral {c : Char} {low high n : Nat} {ds : List Char}
    (hc : isWhiteSpace c = false) (h : Numeral 2 n ds) (r : List Char) :
    readFieldAfter c low high (c :: (ds ++ r))
      = if low ≤ n ∧ n ≤ high then .ok (n, r) else .error .outOfRange := by
  have hskip : skip (c :: (ds ++ r)) = c :: (ds ++ r) := skip_append .nil hc
  unfold readFieldAfter
  rw [hskip, readLiteral_eq_ok_iff.mpr rfl]
  exact readField_numeral h r

theorem readOffsetMinutes_numerals {hours minutes : Nat} {h m : List Char}
    (hh : Numeral 2 hours h) (hm : Numeral 2 minutes m) :
    readOffsetMinutes (h ++ ':' :: m)
      = if minutes < 60 then .ok (60 * hours + minutes, []) else .error .outOfRange := by
  have hfirst : readTwoDigits (h ++ ':' :: m) = .ok (hours, ':' :: m) :=
    readTwoDigits_eq_ok_iff.mpr ⟨h, hh, rfl⟩
  have hsecond : readTwoDigits m = .ok (minutes, []) :=
    readTwoDigits_eq_ok_iff.mpr ⟨m, hm, (List.append_nil m).symm⟩
  have hgap : (':' :: m).dropWhile (fun c => c = ':' || isWhiteSpace c) = m := by
    obtain ⟨c, s, rfl, hc⟩ := hm.1.exists_cons
    have hcolon : c ≠ ':' := by
      rintro rfl
      exact absurd hc (by decide)
    rw [List.dropWhile_cons_of_pos (by simp),
      List.dropWhile_cons_of_neg (by simp [hcolon, not_space_of_isDigit hc])]
  unfold readOffsetMinutes
  rw [hfirst]
  show (readTwoDigits ((':' :: m).dropWhile _) >>= _) = _
  rw [hgap, hsecond]
  rfl

/-- An offset is read when its minutes are less than an hour. -/
theorem readOffset_text {o : Offset} {s : List Char} (h : o.Text s) :
    readOffset s = if o.minutes < 60 then .ok (o.inMinutes, []) else .error .outOfRange := by
  cases h with
  | zulu => rfl
  | @ahead hours minutes h m hh hm =>
    show (readOffsetMinutes (h ++ ':' :: m)).map _ = _
    rw [readOffsetMinutes_numerals hh hm]
    split <;> rfl
  | @behind hours minutes c h m hc hh hm =>
    have hread : readOffset (c :: (h ++ ':' :: m))
        = (readOffsetMinutes (h ++ ':' :: m)).map fun p => (-(p.1 : Int), p.2) := by
      rcases hc with rfl | rfl <;> rfl
    rw [hread, readOffsetMinutes_numerals hh hm]
    split <;> rfl

end LocalTime

namespace Timestamp

variable {x : Timestamp}

/-- The numbers are within the bounds that are checked as they are read, which do not look at the
date as a whole. -/
def InBounds (x : Timestamp) : Prop :=
  (1 ≤ x.month ∧ x.month ≤ 12) ∧ (1 ≤ x.day ∧ x.day ≤ 31) ∧ (0 ≤ x.hour ∧ x.hour ≤ 23) ∧
    (0 ≤ x.minute ∧ x.minute ≤ 59) ∧ (0 ≤ x.second ∧ x.second ≤ 60) ∧ x.offset.minutes < 60

/-- The local time of the timestamp. -/
def localTime (x : Timestamp) : LocalTime where
  date := ⟨x.year, x.month, x.day⟩
  hour := x.hour
  minute := x.minute
  second := x.second
  nanos := x.nanos
  offset := x.offset.inMinutes

theorem year_lt {s : List Char} (hs : x.Text s) : x.year < 10000 := by
  obtain ⟨year, -, -, -, -, -, -, -, ⟨hd, hlen, hvalue⟩, -⟩ := hs
  have hlt := Digits.value_lt hd.2
  rwa [hlen, hvalue] at hlt

theorem read_localTime {s : List Char} (hs : x.Text s) {t : LocalTime} :
    LocalTime.read s = .ok t ↔ x.InBounds ∧ x.localTime = t := by
  have hyear := x.year_lt hs
  obtain ⟨year, month, day, hour, minute, second, fraction, offset, hy, hm, hd, hh, hmin, hsec,
    hf, ho, rfl⟩ := hs
  obtain ⟨c, r, hcons, hdigit, hpoint, hspace⟩ := ho.exists_cons
  have hstart : NoDigit offset := hcons ▸ noDigit_cons hdigit
  have hnopoint : ∀ c ∈ offset.head?, c ≠ '.' := by
    rw [hcons]
    rintro _ ⟨⟩
    exact hpoint
  have hskip : skip offset = offset := by
    rw [hcons]
    exact skip_append .nil hspace
  unfold LocalTime.read
  rw [← List.nil_append (year ++ _),
    readYear_eq_ok .nil (.bare ⟨hy.1, hy.2.1.le, hy.2.2⟩) (by omega) (noDigit_cons (by decide))]
  show (readFieldAfter '-' 1 12 _ >>= _) = _ ↔ _
  rw [readFieldAfter_numeral (by decide) hm, ite_bind_eq_ok_iff]
  show _ ∧ (readFieldAfter '-' 1 31 _ >>= _) = _ ↔ _
  rw [readFieldAfter_numeral (by decide) hd, ite_bind_eq_ok_iff]
  show _ ∧ _ ∧ (readSeparator _ >>= _) = _ ↔ _
  rw [readSeparator_eq_ok_iff.mpr ⟨'T', .inl rfl, rfl⟩]
  show _ ∧ _ ∧ (readField 0 23 _ >>= _) = _ ↔ _
  rw [readField_numeral hh, ite_bind_eq_ok_iff]
  show _ ∧ _ ∧ _ ∧ (readFieldAfter ':' 0 59 _ >>= _) = _ ↔ _
  rw [readFieldAfter_numeral (by decide) hmin, ite_bind_eq_ok_iff]
  show _ ∧ _ ∧ _ ∧ _ ∧ (readFieldAfter ':' 0 60 _ >>= _) = _ ↔ _
  rw [readFieldAfter_numeral (by decide) hsec, ite_bind_eq_ok_iff]
  show _ ∧ _ ∧ _ ∧ _ ∧ _ ∧ (readFraction _ >>= _) = _ ↔ _
  rw [readFraction_eq_ok (x.fractionText_nanos hf) hstart hnopoint]
  show _ ∧ _ ∧ _ ∧ _ ∧ _ ∧ (readOffset (skip _) >>= _) = _ ↔ _
  rw [hskip, readOffset_text ho, ite_bind_eq_ok_iff]
  show _ ∧ _ ∧ _ ∧ _ ∧ _ ∧ _ ∧ Except.ok x.localTime = _ ↔ _
  rw [Except.ok.injEq]
  simp only [InBounds, and_assoc]

theorem Valid.inBounds (hx : x.Valid) : x.InBounds := by
  have hday := hx.day.2.trans (Date.monthLength_le _ _)
  have hminutes := hx.offset_minutes
  exact ⟨hx.month, ⟨hx.day.1, hday⟩, ⟨Nat.zero_le _, hx.hour⟩, ⟨Nat.zero_le _, hx.minute⟩,
    ⟨Nat.zero_le _, hx.second⟩, by omega⟩

/-- Within the bounds of its numbers a timestamp falls on an instant when it is valid. -/
theorem denotes_iff (hx : x.InBounds) (hyear : x.year < 10000) {i : Instant} :
    x.localTime.Denotes i ↔ x.Valid ∧ x.FallsOn i := by
  obtain ⟨hmonth, hday, hhour, hminute, hsecond, hoffset⟩ := hx
  have hutc : x.localTime.utcSeconds = x.utcMinutes * 60 + (min x.second 59 : Nat) := by
    have hdays : x.localTime.date.toDays = x.days := Date.toDays_eq hmonth.1 hmonth.2 x.day
    unfold utcSeconds utcMinutes
    rw [hdays]
    show (x.days * 1440 + x.hour * 60 + x.minute - x.offset.inMinutes) * 60
      + (min x.second 59 : Nat) = _
    omega
  constructor
  · rintro ⟨hdate, -, hless, hseconds, hnanos, hleap⟩
    refine ⟨⟨hmonth, hdate.2.2, hhour.2, hminute.2, hsecond.2,
      (Offset.natAbs_inMinutes_lt_iff hoffset).mp hless, Nat.le_of_lt_succ hoffset⟩, ?_⟩
    refine ⟨hseconds.trans hutc, hnanos, hleap.trans ?_⟩
    show 60 ≤ x.second ↔ x.second = 60
    omega
  · rintro ⟨hx, hi⟩
    refine ⟨⟨hmonth.1, hmonth.2, hx.day⟩, ?_,
      (Offset.natAbs_inMinutes_lt_iff hoffset).mpr hx.offset_hours, hi.seconds.trans hutc.symm,
      hi.nanos, hi.leap.trans ?_⟩
    · show -262143 ≤ (x.year : Int) ∧ (x.year : Int) ≤ 262142
      omega
    · show x.second = 60 ↔ 60 ≤ x.second
      omega

/-- **Reading accepts a timestamp exactly if it is valid, and gives the instant on which it
falls.** -/
theorem read_eq_ok_iff {s : List Char} (hs : x.Text s) {i : Instant} :
    Instant.read s = .ok i ↔ x.Valid ∧ x.FallsOn i := by
  have hyear := x.year_lt hs
  unfold Instant.read
  rw [bind_eq_ok_iff]
  simp only [x.read_localTime hs, resolve_eq_ok_iff]
  constructor
  · rintro ⟨_, ⟨hbounds, rfl⟩, hi⟩
    exact (denotes_iff hbounds hyear).mp hi
  · rintro ⟨hx, hi⟩
    exact ⟨_, ⟨hx.inBounds, rfl⟩, (denotes_iff hx.inBounds hyear).mpr ⟨hx, hi⟩⟩

/-- The days of a date with a year of four digits. -/
theorem days_bounds (hx : x.Valid) (hyear : x.year < 10000) :
    -1000000 ≤ x.days ∧ x.days ≤ 4000000 := by
  have hday := hx.day.2.trans (Date.monthLength_le _ _)
  have hmonths : Date.daysOfMonths x.year (x.month - 1) ≤ 400 := by
    have hmonth := hx.month
    rw [Date.daysOfMonths_eq _ hmonth.1 hmonth.2]
    split
    · omega
    · split <;> omega
  unfold days
  rw [Date.ordinal_epoch, Date.ordinal, Date.daysOfYears_eq]
  omega

/-- A valid timestamp falls on an instant, also when its offset moves it out of its years. -/
theorem exists_fallsOn {s : List Char} (hs : x.Text s) (hx : x.Valid) : ∃ i, x.FallsOn i := by
  have hdays := days_bounds hx (x.year_lt hs)
  have hnanos : x.nanos < 1000000000 := by
    obtain ⟨-, -, -, -, -, -, fraction, -, -, -, -, -, -, -, hf, -⟩ := hs
    exact nanos_lt hf
  have hhour := hx.hour
  have hminute := hx.minute
  have hoffset : x.offset.inMinutes.natAbs < 1440 :=
    (Offset.natAbs_inMinutes_lt_iff (Nat.lt_succ_of_le hx.offset_minutes)).mpr hx.offset_hours
  refine ⟨⟨x.utcMinutes * 60 + (min x.second 59 : Nat), x.nanos, decide (x.second = 60), hnanos,
    ?_, ?_, ?_⟩, rfl, rfl, decide_eq_true_iff⟩
  · intro hleap
    have := of_decide_eq_true hleap
    omega
  · unfold utcMinutes
    omega
  · unfold utcMinutes
    omega

/-! ## The same instant -/

/-- The nanoseconds from the beginning of 1970 in UTC to a timestamp without a leap second. -/
def sinceEpoch (x : Timestamp) : Int :=
  (x.utcMinutes * 60 + x.second) * 1000000000 + x.nanos

theorem eq_iff_of_fallsOn {x x' : Timestamp} {i i' : Instant} (hx : x.second < 60)
    (hx' : x'.second < 60) (h : x.FallsOn i) (h' : x'.FallsOn i') :
    i = i' ↔ x.sinceEpoch = x'.sinceEpoch := by
  have hnanos := i.nanos_lt
  have hnanos' := i'.nanos_lt
  obtain ⟨hseconds, hfraction, hleap⟩ := h
  obtain ⟨hseconds', hfraction', hleap'⟩ := h'
  unfold sinceEpoch
  constructor
  · rintro rfl
    omega
  · intro hsame
    have hs : i.seconds = i'.seconds := by omega
    have hn : i.nanos = i'.nanos := by omega
    have hl : i.leap = i'.leap := by
      rw [Bool.eq_iff_iff, hleap, hleap']
      omega
    cases i
    cases i'
    simp only at hs hn hl
    subst hs hn hl
    rfl

end Timestamp

end UserDirectory
