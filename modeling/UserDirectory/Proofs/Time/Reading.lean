import Mathlib.Data.List.Basic
import Mathlib.Data.List.TakeWhile
import UserDirectory.Proofs.Except
import UserDirectory.Proofs.Text.Digits
import UserDirectory.Time.Reading

/-!
# The grammar of instants

A date, a time of day and an offset, in the relaxed form that is read. The grammar is given part by
part, and of each part it is shown that its reader takes exactly the texts of the part: what is
taken is such a text, and such a text is taken whole, whatever follows it. A number has no closing
mark, so what follows it must not be a digit.

* `LocalTime.Text t s`: the text `s` spells the local time `t`
* `LocalTime.Denotes t i`: the local time `t` exists and falls on the instant `i`
* `Instant.read_eq_ok_iff`: reading accepts exactly the texts that spell a local time, and gives the
  instant on which it falls
-/

namespace UserDirectory

namespace LocalTime

/-! ## White space -/

/-- A run of white space, empty or not. -/
def Spaces (w : List Char) : Prop := ∀ c ∈ w, isWhiteSpace c = true

theorem Spaces.nil : Spaces [] := by
  intro c hc
  cases hc

theorem skip_append {w s : List Char} {c : Char} (hw : Spaces w) (hc : isWhiteSpace c = false) :
    skip (w ++ c :: s) = c :: s := by
  rw [skip, List.dropWhile_append_of_pos hw, List.dropWhile_cons_of_neg (by simp [hc])]

theorem skip_eq_nil {w : List Char} (hw : Spaces w) : skip w = [] :=
  List.dropWhile_eq_nil_iff.mpr hw

theorem exists_spaces (s : List Char) : ∃ w, Spaces w ∧ s = w ++ skip s :=
  ⟨s.takeWhile isWhiteSpace, fun _ hc => List.mem_takeWhile_imp hc,
    List.takeWhile_append_dropWhile.symm⟩

/-- A digit is not white space. -/
theorem not_space_of_isDigit {c : Char} (h : c.isDigit = true) : isWhiteSpace c = false := by
  have hrange : ∀ n ∈ List.range 58, 48 ≤ n →
      CharClass.covers CharClass.whiteSpace.ranges n = false := by decide
  simp only [Char.isDigit, Bool.and_eq_true, decide_eq_true_eq] at h
  have hlow : 48 ≤ c.toNat := h.1
  have hhigh : c.toNat ≤ 57 := h.2
  exact hrange c.toNat (List.mem_range.mpr (by omega)) hlow

/-! ## Numbers -/

/-- A number of at most `most` digits. -/
def NumeralText (most n : Nat) (s : List Char) : Prop :=
  IsDigits s ∧ s.length ≤ most ∧ Digits.value s = n

theorem readNumber_eq_ok {most n : Nat} {ds r : List Char} (h : NumeralText most n ds)
    (hr : ds.length = most ∨ NoDigit r) : readNumber most (ds ++ r) = .ok (n, r) := by
  obtain ⟨hd, hlen, hval⟩ := h
  have htake : ((ds ++ r).take most).takeWhile Char.isDigit = ds := by
    rw [List.take_append, List.take_of_length_le hlen, List.takeWhile_append_of_pos hd.2]
    rcases hr with hfull | hr
    · rw [hfull, Nat.sub_self, List.take_zero, List.takeWhile_nil, List.append_nil]
    · cases hs : r.take (most - ds.length) with
      | nil => rw [List.takeWhile_nil, List.append_nil]
      | cons c s =>
        have hmem : c ∈ r.head? := by
          cases r with
          | nil => simp at hs
          | cons c' r =>
            cases hk : most - ds.length with
            | zero => simp [hk] at hs
            | succ k =>
              rw [hk, List.take_succ_cons, List.cons.injEq] at hs
              rw [hs.1]
              rfl
        rw [List.takeWhile_cons_of_neg (by simp [hr c hmem]), List.append_nil]
  obtain ⟨c, s, rfl, -⟩ := hd.exists_cons
  rw [List.cons_append, readNumber]
  · rw [← List.cons_append, htake]
    simp [hval]
  · simp

theorem noDigit_dropWhile (s : List Char) : NoDigit (s.dropWhile Char.isDigit) := by
  intro c hc
  have h := List.head?_dropWhile_not Char.isDigit s
  rw [Option.mem_def.mp hc] at h
  simpa using h

theorem takeWhile_eq_nil {s : List Char} (h : NoDigit s) : s.takeWhile Char.isDigit = [] := by
  cases s with
  | nil => rfl
  | cons c s => exact List.takeWhile_cons_of_neg (by simp [h c rfl])

/-- The digits that are read end where there are enough of them or where there are no more. -/
theorem exists_numeral_of_readNumber {most n : Nat} {s r : List Char}
    (h : readNumber most s = .ok (n, r)) :
    ∃ ds, NumeralText most n ds ∧ s = ds ++ r ∧ (ds.length = most ∨ NoDigit r) := by
  unfold readNumber at h
  split at h
  · simp at h
  · simp only at h
    split at h
    · simp at h
    · next hne =>
      obtain ⟨rfl, rfl⟩ := Prod.mk.inj (Except.ok.inj h)
      -- looking at the first characters only is taking the first of all digits
      have hrun := @List.take_takeWhile _ most s Char.isDigit
      have hpre : (s.take most).takeWhile Char.isDigit <+: s :=
        (List.takeWhile_prefix _).trans (List.take_prefix _ _)
      refine ⟨_, ⟨⟨by simpa using hne, fun c hc => List.mem_takeWhile_imp hc⟩,
        hrun ▸ List.length_take_le _ _, rfl⟩, (List.prefix_iff_eq_append.mp hpre).symm, ?_⟩
      rw [← hrun]
      by_cases hlen : most ≤ (s.takeWhile Char.isDigit).length
      · exact .inl (List.length_take_of_le hlen)
      · rw [List.take_of_length_le (by omega)]
        refine .inr ?_
        have hdrop : s.drop (s.takeWhile Char.isDigit).length = s.dropWhile Char.isDigit := by
          have hparts := @List.takeWhile_append_dropWhile _ Char.isDigit s
          calc s.drop (s.takeWhile Char.isDigit).length
              = (s.takeWhile Char.isDigit ++ s.dropWhile Char.isDigit).drop
                  (s.takeWhile Char.isDigit).length := by rw [hparts]
            _ = s.dropWhile Char.isDigit := List.drop_left
        rw [hdrop]
        exact noDigit_dropWhile s

/-! ## Fields -/

/-- White space and a number of one or two digits from `low` to `high`. -/
def FieldText (low high n : Nat) (s : List Char) : Prop :=
  ∃ w ds, Spaces w ∧ NumeralText 2 n ds ∧ low ≤ n ∧ n ≤ high ∧ s = w ++ ds

/-- The given character with white space before it, and a field. -/
def FieldAfterText (c : Char) (low high n : Nat) (s : List Char) : Prop :=
  ∃ w f, Spaces w ∧ FieldText low high n f ∧ s = w ++ c :: f

theorem readField_eq_ok {low high n : Nat} {f r : List Char} (h : FieldText low high n f)
    (hr : NoDigit r) : readField low high (f ++ r) = .ok (n, r) := by
  obtain ⟨w, ds, hw, hn, hlow, hhigh, rfl⟩ := h
  obtain ⟨c, s, rfl, hc⟩ := hn.1.exists_cons
  have hskip : skip (w ++ c :: s ++ r) = c :: s ++ r := by
    rw [List.append_assoc, List.cons_append, skip_append hw (not_space_of_isDigit hc)]
  unfold readField
  rw [hskip, readNumber_eq_ok hn (.inr hr)]
  exact if_pos ⟨hlow, hhigh⟩

theorem exists_field_of_readField {low high n : Nat} {s r : List Char}
    (h : readField low high s = .ok (n, r)) : ∃ f, FieldText low high n f ∧ s = f ++ r := by
  unfold readField at h
  obtain ⟨⟨m, s'⟩, hn, h⟩ := bind_eq_ok_iff.mp h
  obtain ⟨w, hw, hs⟩ := exists_spaces s
  obtain ⟨ds, hds, hsk, -⟩ := exists_numeral_of_readNumber hn
  simp only at h
  split at h
  · next hb =>
    obtain ⟨rfl, rfl⟩ := Prod.mk.inj (Except.ok.inj h)
    exact ⟨w ++ ds, ⟨w, ds, hw, hds, hb.1, hb.2, rfl⟩, by rw [hs, hsk, List.append_assoc]⟩
  · simp at h

theorem readLiteral_eq_ok_iff {c : Char} {s r : List Char} :
    readLiteral c s = .ok r ↔ s = c :: r := by
  constructor
  · intro h
    unfold readLiteral at h
    split at h
    · simp at h
    · split at h
      · next hc => rw [hc, Except.ok.inj h]
      · simp at h
  · rintro rfl
    exact if_pos rfl

theorem readFieldAfter_eq_ok {c : Char} {low high n : Nat} {f r : List Char}
    (hc : isWhiteSpace c = false) (h : FieldAfterText c low high n f) (hr : NoDigit r) :
    readFieldAfter c low high (f ++ r) = .ok (n, r) := by
  obtain ⟨w, f, hw, hf, rfl⟩ := h
  have hskip : skip (w ++ c :: f ++ r) = c :: (f ++ r) := by
    rw [List.append_assoc, List.cons_append, skip_append hw hc]
  unfold readFieldAfter
  rw [hskip, readLiteral_eq_ok_iff.mpr rfl]
  exact readField_eq_ok hf hr

theorem exists_field_of_readFieldAfter {c : Char} {low high n : Nat} {s r : List Char}
    (h : readFieldAfter c low high s = .ok (n, r)) :
    ∃ f, FieldAfterText c low high n f ∧ s = f ++ r := by
  unfold readFieldAfter at h
  obtain ⟨s', hl, h⟩ := bind_eq_ok_iff.mp h
  obtain ⟨w, hw, hs⟩ := exists_spaces s
  obtain ⟨f, hf, rfl⟩ := exists_field_of_readField h
  exact ⟨w ++ c :: f, ⟨w, f, hw, hf, rfl⟩, by rw [hs, readLiteral_eq_ok_iff.mp hl]; simp⟩

/-! ## Dates -/

/-- A year: one to four digits, or a sign and any number of digits. -/
inductive YearText : Int → List Char → Prop where
  | bare {n : Nat} {ds : List Char} : NumeralText 4 n ds → YearText n ds
  | plus {ds : List Char} : IsDigits ds → YearText (Digits.value ds) ('+' :: ds)
  | minus {ds : List Char} : IsDigits ds → YearText (-(Digits.value ds : Int)) ('-' :: ds)

/-- White space, a year of 32 bits, and a month and a day with hyphens before them. -/
def DateText (d : Date) (s : List Char) : Prop :=
  ∃ w y m n, Spaces w ∧ YearText d.year y ∧ (-2147483648 ≤ d.year ∧ d.year ≤ 2147483647) ∧
    FieldAfterText '-' 1 12 d.month m ∧ FieldAfterText '-' 1 31 d.day n ∧ s = w ++ (y ++ (m ++ n))

/-- Reads the sign and the digits of a year. -/
def readSigned : List Char → Except TimeError (Int × List Char)
  | '-' :: r => (readNumber r.length r).map fun (n, r) => (-(n : Int), r)
  | '+' :: r => (readNumber r.length r).map fun (n, r) => ((n : Int), r)
  | r => (readNumber 4 r).map fun (n, r) => ((n : Int), r)

/-- A year is read as a number with an optional sign that fits 32 bits. -/
theorem readYear_eq (s : List Char) :
    readYear s = readSigned (skip s) >>= fun (n, s) =>
      if -2147483648 ≤ n ∧ n ≤ 2147483647 then .ok (n, s) else .error .outOfRange := by
  unfold readYear
  generalize skip s = t
  split
  · rfl
  · rfl
  · next hminus hplus => rw [readSigned] <;> assumption

theorem readSigned_eq_ok {year : Int} {y r : List Char} (hy : YearText year y) (hr : NoDigit r) :
    readSigned (y ++ r) = .ok (year, r) := by
  cases hy with
  | @bare n ds hn =>
    obtain ⟨c, s, rfl, hc⟩ := hn.1.exists_cons
    rw [List.cons_append, readSigned]
    · exact map_eq_ok_iff.mpr ⟨(n, r), readNumber_eq_ok hn (.inr hr), rfl⟩
    · intro t ht
      exact absurd ((List.cons.inj ht).1 ▸ hc) (by decide)
    · intro t ht
      exact absurd ((List.cons.inj ht).1 ▸ hc) (by decide)
  | @plus ds hd =>
    exact map_eq_ok_iff.mpr ⟨(Digits.value ds, r),
      readNumber_eq_ok ⟨hd, by simp, rfl⟩ (.inr hr), rfl⟩
  | @minus ds hd =>
    exact map_eq_ok_iff.mpr ⟨(Digits.value ds, r),
      readNumber_eq_ok ⟨hd, by simp, rfl⟩ (.inr hr), rfl⟩

theorem exists_year_of_readSigned {year : Int} {s r : List Char}
    (h : readSigned s = .ok (year, r)) : ∃ y, YearText year y ∧ s = y ++ r := by
  unfold readSigned at h
  split at h
  · obtain ⟨⟨n, r'⟩, hn, heq⟩ := map_eq_ok_iff.mp h
    obtain ⟨rfl, rfl⟩ := Prod.mk.inj heq
    obtain ⟨ds, ⟨hd, -, rfl⟩, rfl, -⟩ := exists_numeral_of_readNumber hn
    exact ⟨_, .minus hd, rfl⟩
  · obtain ⟨⟨n, r'⟩, hn, heq⟩ := map_eq_ok_iff.mp h
    obtain ⟨rfl, rfl⟩ := Prod.mk.inj heq
    obtain ⟨ds, ⟨hd, -, rfl⟩, rfl, -⟩ := exists_numeral_of_readNumber hn
    exact ⟨_, .plus hd, rfl⟩
  · obtain ⟨⟨n, r'⟩, hn, heq⟩ := map_eq_ok_iff.mp h
    obtain ⟨rfl, rfl⟩ := Prod.mk.inj heq
    obtain ⟨ds, hds, rfl, -⟩ := exists_numeral_of_readNumber hn
    exact ⟨ds, .bare hds, rfl⟩

theorem YearText.exists_cons {year : Int} {y : List Char} (h : YearText year y) :
    ∃ c s, y = c :: s ∧ isWhiteSpace c = false := by
  cases h with
  | bare hn =>
    obtain ⟨c, s, rfl, hc⟩ := hn.1.exists_cons
    exact ⟨c, s, rfl, not_space_of_isDigit hc⟩
  | plus => exact ⟨'+', _, rfl, by decide⟩
  | minus => exact ⟨'-', _, rfl, by decide⟩

theorem readYear_eq_ok {year : Int} {w y r : List Char} (hw : Spaces w) (hy : YearText year y)
    (hrange : -2147483648 ≤ year ∧ year ≤ 2147483647) (hr : NoDigit r) :
    readYear (w ++ (y ++ r)) = .ok (year, r) := by
  have hread := readSigned_eq_ok hy hr
  obtain ⟨c, s, rfl, hc⟩ := hy.exists_cons
  rw [readYear_eq, List.cons_append, skip_append hw hc, ← List.cons_append, hread]
  exact if_pos hrange

theorem exists_year_of_readYear {year : Int} {s r : List Char} (h : readYear s = .ok (year, r)) :
    ∃ w y, Spaces w ∧ YearText year y ∧ (-2147483648 ≤ year ∧ year ≤ 2147483647) ∧
      s = w ++ (y ++ r) := by
  rw [readYear_eq] at h
  obtain ⟨⟨n, s'⟩, hn, h⟩ := bind_eq_ok_iff.mp h
  obtain ⟨w, hw, hs⟩ := exists_spaces s
  obtain ⟨y, hy, hsy⟩ := exists_year_of_readSigned hn
  simp only at h
  split at h
  · next hrange =>
    obtain ⟨rfl, rfl⟩ := Prod.mk.inj (Except.ok.inj h)
    exact ⟨w, y, hw, hy, hrange, by rw [hs, hsy]⟩
  · simp at h

/-! ## Times of day -/

/-- The fraction of a second in nanoseconds: nothing, or a point and digits of which nine count. -/
inductive FractionText : Nat → List Char → Prop where
  | absent : FractionText 0 []
  | digits {ds : List Char} : IsDigits ds →
      FractionText (Digits.value (ds.take 9) * Nat.pow 10 (9 - (ds.take 9).length)) ('.' :: ds)

theorem readFraction_eq_ok {n : Nat} {f r : List Char} (hf : FractionText n f) (hr : NoDigit r)
    (hp : ∀ c ∈ r.head?, c ≠ '.') : readFraction (f ++ r) = .ok (n, r) := by
  cases hf with
  | absent =>
    rw [List.nil_append, readFraction]
    rintro s rfl
    exact hp '.' rfl rfl
  | @digits ds hd =>
    have hsplit : ds ++ r = ds.take 9 ++ (ds.drop 9 ++ r) := by
      rw [← List.append_assoc, List.take_append_drop]
    have hnum : readNumber 9 (ds ++ r) = .ok (Digits.value (ds.take 9), ds.drop 9 ++ r) := by
      rw [hsplit]
      refine readNumber_eq_ok ⟨⟨?_, fun c hc => hd.2 c (List.mem_of_mem_take hc)⟩,
        List.length_take_le _ _, rfl⟩ ?_
      · obtain ⟨c, s, rfl, -⟩ := hd.exists_cons
        simp
      · by_cases hlen : 9 ≤ ds.length
        · exact .inl (List.length_take_of_le hlen)
        · rw [List.drop_eq_nil_of_le (by omega), List.nil_append]
          exact .inr hr
    have hcount : (ds ++ r).length - (ds.drop 9 ++ r).length = (ds.take 9).length := by
      simp only [List.length_append, List.length_drop, List.length_take]
      omega
    have hrest : (ds.drop 9 ++ r).dropWhile Char.isDigit = r := by
      rw [List.dropWhile_append_of_pos fun c hc => hd.2 c (List.mem_of_mem_drop hc)]
      cases r with
      | nil => rfl
      | cons c r => exact List.dropWhile_cons_of_neg (by simp [hr c rfl])
    rw [List.cons_append, readFraction, hnum]
    show Except.ok (Digits.value (ds.take 9)
        * Nat.pow 10 (9 - ((ds ++ r).length - (ds.drop 9 ++ r).length)),
      (ds.drop 9 ++ r).dropWhile Char.isDigit) = _
    rw [hcount, hrest]

theorem exists_fraction_of_readFraction {n : Nat} {s r : List Char}
    (h : readFraction s = .ok (n, r)) : ∃ f, FractionText n f ∧ s = f ++ r := by
  unfold readFraction at h
  split at h
  · next s =>
    obtain ⟨⟨m, s'⟩, hm, h⟩ := bind_eq_ok_iff.mp h
    obtain ⟨rfl, rfl⟩ := Prod.mk.inj (Except.ok.inj h)
    obtain ⟨ds, ⟨hd, hlen, rfl⟩, rfl, hstop⟩ := exists_numeral_of_readNumber hm
    have hall : IsDigits (ds ++ s'.takeWhile Char.isDigit) := by
      refine ⟨by simp [hd.1], fun c hc => ?_⟩
      rcases List.mem_append.mp hc with hc | hc
      · exact hd.2 c hc
      · exact List.mem_takeWhile_imp hc
    -- either nine digits were read, or no digit is left to be dropped
    have htake : (ds ++ s'.takeWhile Char.isDigit).take 9 = ds := by
      rcases hstop with hnine | hstop
      · rw [← hnine, List.take_left]
      · rw [takeWhile_eq_nil hstop, List.append_nil, List.take_of_length_le hlen]
    refine ⟨'.' :: (ds ++ s'.takeWhile Char.isDigit), ?_, ?_⟩
    · have h := FractionText.digits hall
      rw [htake] at h
      rwa [List.length_append, Nat.add_sub_cancel]
    · rw [List.cons_append, List.append_assoc, List.takeWhile_append_dropWhile]
  · obtain ⟨rfl, rfl⟩ := Prod.mk.inj (Except.ok.inj h)
    exact ⟨[], .absent, rfl⟩

/-! ## Offsets -/

/-- Two digits. -/
def PairText (n : Nat) (s : List Char) : Prop :=
  IsDigits s ∧ s.length = 2 ∧ Digits.value s = n

/-- Hours and minutes of two digits each with colons and white space between them, in minutes. -/
def MinutesText (n : Nat) (s : List Char) : Prop :=
  ∃ hours minutes h gap m, PairText hours h ∧ (∀ c ∈ gap, c = ':' ∨ isWhiteSpace c = true) ∧
    PairText minutes m ∧ minutes < 60 ∧ n = 60 * hours + minutes ∧ s = h ++ (gap ++ m)

/-- An offset from UTC in minutes: `UTC` or `Z` in any case, or hours and minutes with a sign, which
may be U+2212. -/
inductive OffsetText : Int → List Char → Prop where
  | utc {s : List Char} : s.map Char.toUpper = ['U', 'T', 'C'] → OffsetText 0 s
  | zulu {c : Char} : c = 'Z' ∨ c = 'z' → OffsetText 0 [c]
  | ahead {n : Nat} {s : List Char} : MinutesText n s → OffsetText n ('+' :: s)
  | behind {c : Char} {n : Nat} {s : List Char} : c = '-' ∨ c = Char.ofNat 0x2212 →
      MinutesText n s → OffsetText (-(n : Int)) (c :: s)

theorem readTwoDigits_eq_ok_iff {n : Nat} {s r : List Char} :
    readTwoDigits s = .ok (n, r) ↔ ∃ ds, PairText n ds ∧ s = ds ++ r := by
  constructor
  · intro h
    unfold readTwoDigits at h
    split at h
    · simp at h
    · simp at h
    · next c d s =>
      split at h
      · next hd =>
        obtain ⟨rfl, rfl⟩ := Prod.mk.inj (Except.ok.inj h)
        exact ⟨[c, d], ⟨⟨by simp, by simpa using hd⟩, rfl, rfl⟩, rfl⟩
      · simp at h
  · rintro ⟨ds, ⟨hd, hlen, rfl⟩, rfl⟩
    obtain ⟨c, d, rfl⟩ := List.length_eq_two.mp hlen
    exact if_pos ⟨hd.2 c (by simp), hd.2 d (by simp)⟩

theorem readOffsetMinutes_eq_ok_iff {n : Nat} {s r : List Char} :
    readOffsetMinutes s = .ok (n, r) ↔ ∃ f, MinutesText n f ∧ s = f ++ r := by
  constructor
  · intro h
    unfold readOffsetMinutes at h
    obtain ⟨⟨hours, s'⟩, hhours, hnext⟩ := bind_eq_ok_iff.mp h
    obtain ⟨⟨minutes, s''⟩, hminutes, hlast⟩ := bind_eq_ok_iff.mp hnext
    obtain ⟨hs, hhs, rfl⟩ := readTwoDigits_eq_ok_iff.mp hhours
    obtain ⟨ms, hms, hgap⟩ := readTwoDigits_eq_ok_iff.mp hminutes
    simp only at hlast
    split at hlast
    · next hlt =>
      obtain ⟨rfl, rfl⟩ := Prod.mk.inj (Except.ok.inj hlast)
      refine ⟨hs ++ (s'.takeWhile (fun c => c = ':' || isWhiteSpace c) ++ ms),
        ⟨hours, minutes, hs, _, ms, hhs, fun c hc => ?_, hms, hlt, rfl, rfl⟩, ?_⟩
      · simpa using List.mem_takeWhile_imp hc
      · rw [List.append_assoc, List.append_assoc, ← hgap, List.takeWhile_append_dropWhile]
    · simp at hlast
  · rintro ⟨f, ⟨hours, minutes, hs, gap, ms, hhs, hgap, hms, hlt, rfl, rfl⟩, rfl⟩
    have hfirst : readTwoDigits (hs ++ (gap ++ ms) ++ r) = .ok (hours, gap ++ (ms ++ r)) :=
      readTwoDigits_eq_ok_iff.mpr ⟨hs, hhs, by simp⟩
    have hsecond : readTwoDigits (ms ++ r) = .ok (minutes, r) :=
      readTwoDigits_eq_ok_iff.mpr ⟨ms, hms, rfl⟩
    have hskip : (gap ++ (ms ++ r)).dropWhile (fun c => c = ':' || isWhiteSpace c) = ms ++ r := by
      obtain ⟨c, t, rfl, hc⟩ := hms.1.exists_cons
      -- the gap ends at the first digit of the minutes
      have hcolon : c ≠ ':' := by
        rintro rfl
        exact absurd hc (by decide)
      rw [List.dropWhile_append_of_pos (by simpa using hgap), List.cons_append,
        List.dropWhile_cons_of_neg (by simp [hcolon, not_space_of_isDigit hc])]
    unfold readOffsetMinutes
    rw [hfirst]
    show (readTwoDigits ((gap ++ (ms ++ r)).dropWhile _) >>= _) = _
    rw [hskip, hsecond]
    exact if_pos hlt

theorem eq_of_toUpper_eq {c : Char} (h : c.toUpper = 'U') : c = 'U' ∨ c = 'u' := by
  unfold Char.toUpper at h
  split at h
  · refine .inr (Char.ext ?_)
    have hval := congrArg Char.val h
    rw [← UInt32.eq_sub_iff_add_eq] at hval
    rw [hval]
    decide
  · exact .inl h

theorem exists_letters {s : List Char} (h : s.map Char.toUpper = ['U', 'T', 'C']) :
    ∃ a b c, s = [a, b, c] ∧ (a = 'U' ∨ a = 'u') := by
  have hlen : s.length = 3 := by
    rw [← List.length_map Char.toUpper, h]
    rfl
  obtain ⟨a, b, c, rfl⟩ := List.length_eq_three.mp hlen
  exact ⟨a, b, c, rfl, eq_of_toUpper_eq (List.cons.inj h).1⟩

theorem readOffset_eq_ok {n : Int} {f r : List Char} (hf : OffsetText n f) :
    readOffset (f ++ r) = .ok (n, r) := by
  cases hf with
  | utc hs =>
    obtain ⟨a, b, c, rfl, -⟩ := exists_letters hs
    exact if_pos hs
  | @zulu c hc =>
    have hutc : ((c :: r).take 3).map Char.toUpper ≠ ['U', 'T', 'C'] := by
      rcases hc with rfl | rfl
      · simp
      · simp
    rw [List.singleton_append, readOffset, if_neg hutc, if_pos hc]
  | @ahead n s hs =>
    exact map_eq_ok_iff.mpr ⟨(n, r), readOffsetMinutes_eq_ok_iff.mpr ⟨s, hs, rfl⟩, rfl⟩
  | @behind c n s hc hs =>
    rcases hc with rfl | rfl
    · exact map_eq_ok_iff.mpr ⟨(n, r), readOffsetMinutes_eq_ok_iff.mpr ⟨s, hs, rfl⟩, rfl⟩
    · exact map_eq_ok_iff.mpr ⟨(n, r), readOffsetMinutes_eq_ok_iff.mpr ⟨s, hs, rfl⟩, rfl⟩

theorem exists_offset_of_readOffset {n : Int} {s r : List Char} (h : readOffset s = .ok (n, r)) :
    ∃ f, OffsetText n f ∧ s = f ++ r := by
  unfold readOffset at h
  split at h
  · simp at h
  · next c s =>
    split at h
    · next hutc =>
      obtain ⟨rfl, rfl⟩ := Prod.mk.inj (Except.ok.inj h)
      exact ⟨(c :: s).take 3, .utc hutc, (List.take_append_drop 3 (c :: s)).symm⟩
    · split at h
      · next hz =>
        obtain ⟨rfl, rfl⟩ := Prod.mk.inj (Except.ok.inj h)
        exact ⟨[c], .zulu hz, rfl⟩
      · split at h
        · next hplus =>
          obtain ⟨⟨m, r'⟩, hm, heq⟩ := map_eq_ok_iff.mp h
          obtain ⟨rfl, rfl⟩ := Prod.mk.inj heq
          obtain ⟨f, hf, rfl⟩ := readOffsetMinutes_eq_ok_iff.mp hm
          exact ⟨'+' :: f, .ahead hf, by rw [hplus]; rfl⟩
        · split at h
          · next hminus =>
            obtain ⟨⟨m, r'⟩, hm, heq⟩ := map_eq_ok_iff.mp h
            obtain ⟨rfl, rfl⟩ := Prod.mk.inj heq
            obtain ⟨f, hf, rfl⟩ := readOffsetMinutes_eq_ok_iff.mp hm
            exact ⟨c :: f, .behind hminus hf, rfl⟩
          · simp at h

/-- An offset does not continue what stands before it. -/
theorem OffsetText.exists_cons {n : Int} {f : List Char} (h : OffsetText n f) :
    ∃ c s, f = c :: s ∧ c.isDigit = false ∧ c ≠ '.' ∧ isWhiteSpace c = false := by
  cases h with
  | utc hs =>
    obtain ⟨a, b, c, rfl, ha⟩ := exists_letters hs
    refine ⟨a, [b, c], rfl, ?_⟩
    rcases ha with rfl | rfl
    · decide
    · decide
  | @zulu c hc =>
    refine ⟨c, [], rfl, ?_⟩
    rcases hc with rfl | rfl
    · decide
    · decide
  | @ahead n s hs => exact ⟨'+', s, rfl, by decide⟩
  | @behind c n s hc hs =>
    refine ⟨c, s, rfl, ?_⟩
    rcases hc with rfl | rfl
    · decide
    · decide

/-! ## Whole texts -/

theorem noDigit_spaces_cons {w s : List Char} {c : Char} (hw : Spaces w)
    (hc : c.isDigit = false) : NoDigit (w ++ c :: s) := by
  cases w with
  | nil => exact noDigit_cons hc
  | cons d w =>
    refine noDigit_cons (Bool.eq_false_iff.mpr fun hd => ?_)
    have hspace := hw d List.mem_cons_self
    rw [not_space_of_isDigit hd] at hspace
    cases hspace

theorem noDigit_fieldAfter {c : Char} {low high n : Nat} {f r : List Char}
    (hc : c.isDigit = false) (h : FieldAfterText c low high n f) : NoDigit (f ++ r) := by
  obtain ⟨w, f, hw, -, rfl⟩ := h
  rw [List.append_assoc, List.cons_append]
  exact noDigit_spaces_cons hw hc

theorem noDigit_fraction {n : Nat} {f r : List Char} (h : FractionText n f) (hr : NoDigit r) :
    NoDigit (f ++ r) := by
  cases h with
  | absent => exact hr
  | digits => exact noDigit_cons (by decide)

/-- What divides the date from the time of day. -/
def IsSeparator (c : Char) : Prop := c = 'T' ∨ c = 't' ∨ c = ' '

theorem readSeparator_eq_ok_iff {s r : List Char} :
    readSeparator s = .ok r ↔ ∃ c, IsSeparator c ∧ s = c :: r := by
  constructor
  · intro h
    unfold readSeparator at h
    split at h
    · simp at h
    · next c s =>
      split at h
      · next hc => exact ⟨c, hc, by rw [Except.ok.inj h]⟩
      · simp at h
  · rintro ⟨c, hc, rfl⟩
    exact if_pos hc

theorem isDigit_eq_false_of_isSeparator {c : Char} (h : IsSeparator c) : c.isDigit = false := by
  rcases h with rfl | rfl | rfl
  · decide
  · decide
  · decide

/-- The text spells the local time: a date, a separator, a time of day and an offset. -/
def Text (t : LocalTime) (s : List Char) : Prop :=
  ∃ date sep hour minute second fraction w offset w',
    DateText t.date date ∧ IsSeparator sep ∧ FieldText 0 23 t.hour hour ∧
    FieldAfterText ':' 0 59 t.minute minute ∧ FieldAfterText ':' 0 60 t.second second ∧
    FractionText t.nanos fraction ∧ Spaces w ∧ OffsetText t.offset offset ∧ Spaces w' ∧
    s = date ++ sep :: (hour ++ (minute ++ (second ++ (fraction ++ (w ++ (offset ++ w'))))))

theorem read_eq_ok {t : LocalTime} {s : List Char} (h : t.Text s) : read s = .ok t := by
  obtain ⟨date, sep, hour, minute, second, fraction, w, offset, w', ⟨w₀, y, m, d, hw₀, hy, hrange,
    hm, hd, rfl⟩, hsep, hhour, hminute, hsecond, hfraction, hw, hoffset, hw', rfl⟩ := h
  obtain ⟨c, tail, hcons, hdigit, hpoint, hspace⟩ := hoffset.exists_cons
  -- the offset ends the digits of the seconds and of their fraction
  have hend : NoDigit (w ++ (offset ++ w')) := by
    rw [hcons, List.cons_append]
    exact noDigit_spaces_cons hw hdigit
  have hnopoint : ∀ c ∈ (w ++ (offset ++ w')).head?, c ≠ '.' := by
    rw [hcons]
    cases w with
    | nil =>
      rintro _ ⟨⟩
      exact hpoint
    | cons d w =>
      rintro _ ⟨⟩ rfl
      exact absurd (hw '.' List.mem_cons_self) (by decide)
  have hsub : NoDigit (fraction ++ (w ++ (offset ++ w'))) := noDigit_fraction hfraction hend
  have hskip : skip (w ++ (offset ++ w')) = offset ++ w' := by
    rw [hcons, List.cons_append, skip_append hw hspace]
  unfold read
  rw [List.append_assoc, List.append_assoc, List.append_assoc,
    readYear_eq_ok hw₀ hy hrange (noDigit_fieldAfter (by decide) hm)]
  show (readFieldAfter '-' 1 12 _ >>= _) = _
  rw [readFieldAfter_eq_ok (by decide) hm (noDigit_fieldAfter (by decide) hd)]
  show (readFieldAfter '-' 1 31 _ >>= _) = _
  rw [readFieldAfter_eq_ok (by decide) hd (noDigit_cons (isDigit_eq_false_of_isSeparator hsep))]
  show (readSeparator _ >>= _) = _
  rw [readSeparator_eq_ok_iff.mpr ⟨sep, hsep, rfl⟩]
  show (readField 0 23 _ >>= _) = _
  rw [readField_eq_ok hhour (noDigit_fieldAfter (by decide) hminute)]
  show (readFieldAfter ':' 0 59 _ >>= _) = _
  rw [readFieldAfter_eq_ok (by decide) hminute (noDigit_fieldAfter (by decide) hsecond)]
  show (readFieldAfter ':' 0 60 _ >>= _) = _
  rw [readFieldAfter_eq_ok (by decide) hsecond hsub]
  show (readFraction _ >>= _) = _
  rw [readFraction_eq_ok hfraction hend hnopoint]
  show (readOffset (skip _) >>= _) = _
  rw [hskip, readOffset_eq_ok hoffset]
  exact if_pos (by rw [skip_eq_nil hw']; rfl)

theorem text_of_read {t : LocalTime} {s : List Char} (h : read s = .ok t) : t.Text s := by
  unfold read at h
  obtain ⟨⟨year, s₁⟩, hyear, h⟩ := bind_eq_ok_iff.mp h
  obtain ⟨⟨month, s₂⟩, hmonth, h⟩ := bind_eq_ok_iff.mp h
  obtain ⟨⟨day, s₃⟩, hday, h⟩ := bind_eq_ok_iff.mp h
  obtain ⟨s₄, hsep, h⟩ := bind_eq_ok_iff.mp h
  obtain ⟨⟨hour, s₅⟩, hhour, h⟩ := bind_eq_ok_iff.mp h
  obtain ⟨⟨minute, s₆⟩, hminute, h⟩ := bind_eq_ok_iff.mp h
  obtain ⟨⟨second, s₇⟩, hsecond, h⟩ := bind_eq_ok_iff.mp h
  obtain ⟨⟨nanos, s₈⟩, hnanos, h⟩ := bind_eq_ok_iff.mp h
  obtain ⟨⟨offset, s₉⟩, hoffset, h⟩ := bind_eq_ok_iff.mp h
  obtain ⟨w₀, y, hw₀, hy, hrange, hs⟩ := exists_year_of_readYear hyear
  obtain ⟨m, hm, hs₁⟩ := exists_field_of_readFieldAfter hmonth
  obtain ⟨d, hd, hs₂⟩ := exists_field_of_readFieldAfter hday
  obtain ⟨sep, hc, hs₃⟩ := readSeparator_eq_ok_iff.mp hsep
  obtain ⟨f, hf, hs₄⟩ := exists_field_of_readField hhour
  obtain ⟨g, hg, hs₅⟩ := exists_field_of_readFieldAfter hminute
  obtain ⟨k, hk, hs₆⟩ := exists_field_of_readFieldAfter hsecond
  obtain ⟨n, hn, hs₇⟩ := exists_fraction_of_readFraction hnanos
  obtain ⟨w, hw, hs₈⟩ := exists_spaces s₈
  obtain ⟨o, ho, hs₉⟩ := exists_offset_of_readOffset hoffset
  obtain ⟨w', hw', hs'⟩ := exists_spaces s₉
  simp only at h hs₁ hs₂ hs₃ hs₄ hs₅ hs₆ hs₇
  split at h
  · next hend =>
    obtain rfl := Except.ok.inj h
    rw [List.isEmpty_iff.mp hend, List.append_nil] at hs'
    subst hs'
    refine ⟨w₀ ++ (y ++ (m ++ d)), sep, f, g, k, n, w, o, s₉,
      ⟨w₀, y, m, d, hw₀, hy, hrange, hm, hd, rfl⟩, hc, hf, hg, hk, hn, hw, ho, hw', ?_⟩
    rw [hs, hs₁, hs₂, hs₃, hs₄, hs₅, hs₆, hs₇, hs₈, hs₉]
    simp only [List.append_assoc]
  · simp at h

/-- Exactly the texts of local times are read. -/
theorem read_eq_ok_iff {t : LocalTime} {s : List Char} : read s = .ok t ↔ t.Text s :=
  ⟨text_of_read, read_eq_ok⟩

/-! ## The instant of a local time -/

/-- The local time exists and falls on the instant: its date is in the calendar and in the range of
years, and its offset is less than a day. -/
def Denotes (t : LocalTime) (i : Instant) : Prop :=
  t.date.Exists ∧ (-262143 ≤ t.date.year ∧ t.date.year ≤ 262142) ∧ t.offset.natAbs < 1440 ∧
    i.seconds = t.utcSeconds ∧ i.nanos = t.nanos ∧ (i.leap = true ↔ 60 ≤ t.second)

theorem resolve_eq_ok_iff {t : LocalTime} {i : Instant} : t.resolve = .ok i ↔ t.Denotes i := by
  unfold resolve
  constructor
  · intro h
    split at h
    · simp at h
    split at h
    · simp at h
    split at h
    · simp at h
    split at h
    · next hdate hyear hoffset hnanos =>
      split at h
      · obtain rfl := Except.ok.inj h
        refine ⟨not_not.mp hdate, by omega, by omega, rfl, rfl, ?_⟩
        exact decide_eq_true_iff
      · simp at h
    · simp at h
  · obtain ⟨seconds, nanos, leap, hbound, hlast, hearly, hlate⟩ := i
    rintro ⟨hdate, hyear, hoffset, hseconds, hnanos, hleap⟩
    simp only at hseconds hnanos hleap
    subst hseconds hnanos
    obtain rfl : leap = decide (60 ≤ t.second) := Bool.eq_iff_iff.mpr (by simpa using hleap)
    rw [if_neg (not_not.mpr hdate), if_neg (by omega), if_neg (by omega), dif_pos hbound,
      dif_pos ⟨hearly, hlate⟩]

end LocalTime

/-- Reading accepts exactly the texts that spell a local time, and gives the instant on which it
falls. -/
theorem Instant.read_eq_ok_iff {s : List Char} {i : Instant} :
    Instant.read s = .ok i ↔ ∃ t : LocalTime, t.Text s ∧ t.Denotes i := by
  unfold Instant.read
  rw [bind_eq_ok_iff]
  simp only [LocalTime.read_eq_ok_iff, LocalTime.resolve_eq_ok_iff]

end UserDirectory
