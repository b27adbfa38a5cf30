import UserDirectory.Json.Value
import UserDirectory.Proofs.Except
import UserDirectory.Proofs.Json.Literal

/-!
# The grammar of numbers

A number is an optional minus sign, digits without a superfluous zero in front, an optional
fraction and an optional exponent (`NumberText`). Where a 32-bit integer is due, neither fraction
nor exponent may stand, and no minus sign before zero (`IntegerText`).

A number has no closing mark, so its readers take as much as they can. What follows it must not go
on with it: `Delimited` says that of the text after a value.

* `skipNumber_eq_ok`, `exists_number_of_skipNumber`: passing over accepts exactly `NumberText`
* `readInt32_eq_ok`, `exists_integer_of_readInt32`: reading accepts exactly `IntegerText`
-/

namespace UserDirectory.Json

/-! ## Grammar -/

/-- Digits of which the first is no zero, or a zero alone. -/
def IsWhole (s : List Char) : Prop := IsDigits s ∧ (s.head? = some '0' → s = ['0'])

/-- A point and digits, or nothing. -/
inductive FractionText : List Char → Prop where
  | absent : FractionText []
  | digits {ds : List Char} : IsDigits ds → FractionText ('.' :: ds)

/-- The letter `e` in either case, a sign or none, and digits; or nothing. -/
inductive ExponentText : List Char → Prop where
  | absent : ExponentText []
  | digits {e : Char} {sign ds : List Char} : e = 'e' ∨ e = 'E' →
      sign ∈ [[], ['+'], ['-']] → IsDigits ds → ExponentText (e :: (sign ++ ds))

/-- A number without its sign. -/
inductive Magnitude : List Char → Prop where
  | mk {w f e : List Char} : IsWhole w → FractionText f → ExponentText e →
      Magnitude (w ++ (f ++ e))

/-- A number. -/
inductive NumberText : List Char → Prop where
  | positive {m : List Char} : Magnitude m → NumberText m
  | negative {m : List Char} : Magnitude m → NumberText ('-' :: m)

/-- An integer and how it is written: without fraction and exponent, and zero without a sign. -/
inductive IntegerText : Int → List Char → Prop where
  | positive {w : List Char} : IsWhole w → IntegerText (Digits.value w) w
  | negative {w : List Char} : IsWhole w → w ≠ ['0'] →
      IntegerText (-(Digits.value w : Int)) ('-' :: w)

/-- The text does not go on with a number that ends before it. -/
def Delimited (r : List Char) : Prop :=
  ∀ c ∈ r.head?, c.isDigit = false ∧ c ≠ '.' ∧ c ≠ 'e' ∧ c ≠ 'E'

theorem Delimited.noDigit {r : List Char} (h : Delimited r) : NoDigit r := fun c hc => (h c hc).1

theorem delimited_cons {c : Char} {r : List Char}
    (hc : c.isDigit = false ∧ c ≠ '.' ∧ c ≠ 'e' ∧ c ≠ 'E') : Delimited (c :: r) := by
  intro d hd
  rw [List.head?_cons, Option.mem_some_iff] at hd
  exact hd ▸ hc

/-! ## Runs of digits -/

/-- A run of digits ends where the digits end. -/
theorem spanDigits_append {ds r : List Char} (hd : ∀ c ∈ ds, c.isDigit = true) (hr : NoDigit r) :
    spanDigits (ds ++ r) = (ds, r) := by
  unfold spanDigits
  rw [List.takeWhile_append_of_pos hd, List.dropWhile_append_of_pos hd]
  cases r with
  | nil => simp
  | cons c r =>
    have hc : ¬ c.isDigit = true := by simp [hr c rfl]
    rw [List.takeWhile_cons_of_neg hc, List.dropWhile_cons_of_neg hc, List.append_nil]

theorem spanDigits_eq (s : List Char) : s = (spanDigits s).1 ++ (spanDigits s).2 :=
  List.takeWhile_append_dropWhile.symm

theorem isDigit_of_mem_spanDigits {s : List Char} {c : Char} (h : c ∈ (spanDigits s).1) :
    c.isDigit = true := List.mem_takeWhile_imp h

/-! ## Passing over -/

theorem skipDigits_eq_ok {ds r : List Char} (hd : IsDigits ds) (hr : NoDigit r) :
    skipDigits (ds ++ r) = .ok r := by
  rw [skipDigits, spanDigits_append hd.2 hr]
  exact if_neg (by simp [hd.1])

theorem exists_digits_of_skipDigits {s r : List Char} (h : skipDigits s = .ok r) :
    ∃ ds, IsDigits ds ∧ s = ds ++ r := by
  unfold skipDigits at h
  split at h
  · simp at h
  · next hne =>
    obtain rfl := Except.ok.inj h
    refine ⟨(spanDigits s).1, ⟨?_, fun c hc => isDigit_of_mem_spanDigits hc⟩, spanDigits_eq s⟩
    simpa using hne

theorem skipWhole_eq_ok {w r : List Char} (hw : IsWhole w) (hr : NoDigit r) :
    skipWhole (w ++ r) = .ok r := by
  obtain ⟨c, s, rfl, -⟩ := hw.1.exists_cons
  by_cases hc : c = '0'
  · subst hc
    obtain rfl : s = [] := by simpa using hw.2 rfl
    cases r with
    | nil => rfl
    | cons d r =>
      have hd : ¬ d.isDigit = true := by simp [hr d rfl]
      exact if_neg hd
  · -- another digit in front leaves the case of the leading zero
    rw [List.cons_append, skipWhole]
    · exact skipDigits_eq_ok hw.1 hr
    · intro t ht
      exact hc (List.cons.inj ht).1

theorem exists_whole_of_skipWhole {s r : List Char} (h : skipWhole s = .ok r) :
    ∃ w, IsWhole w ∧ s = w ++ r := by
  have zero : IsWhole ['0'] := ⟨⟨by simp, by simp⟩, fun _ => rfl⟩
  unfold skipWhole at h
  split at h
  · split at h
    · split at h
      · simp at h
      · obtain rfl := Except.ok.inj h
        exact ⟨['0'], zero, rfl⟩
    · obtain rfl := Except.ok.inj h
      exact ⟨['0'], zero, rfl⟩
  · next hz =>
    obtain ⟨ds, hd, rfl⟩ := exists_digits_of_skipDigits h
    refine ⟨ds, ⟨hd, fun h0 => ?_⟩, rfl⟩
    obtain ⟨c, t, rfl, -⟩ := hd.exists_cons
    obtain rfl : c = '0' := by simpa using h0
    exact absurd rfl (hz (t ++ r))

theorem skipFraction_of_ne {r : List Char} (h : ∀ c ∈ r.head?, c ≠ '.') :
    skipFraction r = .ok r := by
  rw [skipFraction]
  rintro s rfl
  exact h '.' rfl rfl

theorem skipFraction_eq_ok {f r : List Char} (hf : FractionText f) (hr : NoDigit r)
    (hp : ∀ c ∈ r.head?, c ≠ '.') : skipFraction (f ++ r) = .ok r := by
  cases hf with
  | absent => exact skipFraction_of_ne hp
  | digits hd => exact skipDigits_eq_ok hd hr

theorem exists_fraction_of_skipFraction {s r : List Char} (h : skipFraction s = .ok r) :
    ∃ f, FractionText f ∧ s = f ++ r := by
  unfold skipFraction at h
  split at h
  · obtain ⟨ds, hd, rfl⟩ := exists_digits_of_skipDigits h
    exact ⟨'.' :: ds, .digits hd, rfl⟩
  · obtain rfl := Except.ok.inj h
    exact ⟨[], .absent, rfl⟩

theorem skipExponent_of_ne {r : List Char} (h : ∀ c ∈ r.head?, c ≠ 'e' ∧ c ≠ 'E') :
    skipExponent r = .ok r := by
  cases r with
  | nil => rfl
  | cons c r => exact if_neg (not_or.mpr (h c rfl))

theorem skipExponent_eq_ok {e r : List Char} (he : ExponentText e) (hr : Delimited r) :
    skipExponent (e ++ r) = .ok r := by
  cases he with
  | absent => exact skipExponent_of_ne fun c hc => (hr c hc).2.2
  | @digits e sign ds hl hs hd =>
    have hskip := skipDigits_eq_ok hd hr.noDigit
    rw [List.cons_append, List.append_assoc]
    simp only [List.mem_cons, List.not_mem_nil, or_false] at hs
    rcases hs with rfl | rfl | rfl
    · -- without a sign, the first digit must not be taken for one
      obtain ⟨c, s, rfl, hc⟩ := hd.exists_cons
      rw [List.nil_append, List.cons_append, skipExponent, if_pos hl]
      · exact hskip
      · intro t ht
        exact absurd ((List.cons.inj ht).1 ▸ hc) (by decide)
      · intro t ht
        exact absurd ((List.cons.inj ht).1 ▸ hc) (by decide)
    · exact (if_pos hl).trans hskip
    · exact (if_pos hl).trans hskip

theorem exists_exponent_of_skipExponent {s r : List Char} (h : skipExponent s = .ok r) :
    ∃ e, ExponentText e ∧ s = e ++ r := by
  unfold skipExponent at h
  split at h
  · obtain rfl := Except.ok.inj h
    exact ⟨[], .absent, rfl⟩
  · next c s' =>
    split at h
    · next hl =>
      split at h
      · obtain ⟨ds, hd, rfl⟩ := exists_digits_of_skipDigits h
        exact ⟨_, @ExponentText.digits c ['-'] ds hl (by simp) hd, rfl⟩
      · obtain ⟨ds, hd, rfl⟩ := exists_digits_of_skipDigits h
        exact ⟨_, @ExponentText.digits c ['+'] ds hl (by simp) hd, rfl⟩
      · obtain ⟨ds, hd, rfl⟩ := exists_digits_of_skipDigits h
        exact ⟨_, @ExponentText.digits c [] ds hl (by simp) hd, rfl⟩
    · obtain rfl := Except.ok.inj h
      exact ⟨[], .absent, rfl⟩

/-- What follows the whole part of a number is no digit. -/
theorem noDigit_of_rest {f e r : List Char} (hf : FractionText f) (he : ExponentText e)
    (hr : Delimited r) : NoDigit (f ++ (e ++ r)) := by
  cases hf with
  | digits => exact noDigit_cons (by decide)
  | absent =>
    cases he with
    | absent => exact hr.noDigit
    | digits hl => rcases hl with rfl | rfl <;> exact noDigit_cons (by decide)

/-- What follows the fraction of a number is no digit and no point. -/
theorem noPoint_of_rest {e r : List Char} (he : ExponentText e) (hr : Delimited r) :
    NoDigit (e ++ r) ∧ ∀ c ∈ (e ++ r).head?, c ≠ '.' := by
  cases he with
  | absent => exact ⟨hr.noDigit, fun c hc => (hr c hc).2.1⟩
  | digits hl => rcases hl with rfl | rfl <;> exact ⟨noDigit_cons (by decide), by simp⟩

/-- **A number is passed over up to where it ends.** -/
theorem skipNumber_eq_ok {m r : List Char} (hm : Magnitude m) (hr : Delimited r) :
    skipNumber (m ++ r) = .ok r := by
  obtain @⟨w, f, e, hw, hf, he⟩ := hm
  obtain ⟨hd, hp⟩ := noPoint_of_rest he hr
  rw [List.append_assoc, List.append_assoc, skipNumber,
    skipWhole_eq_ok hw (noDigit_of_rest hf he hr)]
  show (skipFraction (f ++ (e ++ r))).bind skipExponent = _
  rw [skipFraction_eq_ok hf hd hp]
  exact skipExponent_eq_ok he hr

/-- **What is passed over as a number is one.** -/
theorem exists_number_of_skipNumber {s r : List Char} (h : skipNumber s = .ok r) :
    ∃ m, Magnitude m ∧ s = m ++ r := by
  unfold skipNumber at h
  obtain ⟨s₁, hwhole, hnext⟩ := bind_eq_ok_iff.mp h
  obtain ⟨s₂, hfraction, hlast⟩ := bind_eq_ok_iff.mp hnext
  obtain ⟨w, hw, rfl⟩ := exists_whole_of_skipWhole hwhole
  obtain ⟨f, hf, rfl⟩ := exists_fraction_of_skipFraction hfraction
  obtain ⟨e, he, rfl⟩ := exists_exponent_of_skipExponent hlast
  exact ⟨_, .mk hw hf he, by simp⟩

/-! ## Reading integers -/

theorem readDigits_eq_ok {ds r : List Char} (hd : IsDigits ds) (hr : NoDigit r) :
    readDigits (ds ++ r) = .ok (ds, r) := by
  obtain ⟨c, s, rfl, hc⟩ := hd.exists_cons
  rw [List.cons_append, readDigits, if_pos hc, ← List.cons_append, spanDigits_append hd.2 hr]

theorem readWhole_eq_ok {w r : List Char} (hw : IsWhole w) (hr : NoDigit r) :
    readWhole (w ++ r) = .ok (w, r) := by
  obtain ⟨c, s, rfl, -⟩ := hw.1.exists_cons
  by_cases hc : c = '0'
  · subst hc
    obtain rfl : s = [] := by simpa using hw.2 rfl
    cases r with
    | nil => rfl
    | cons d r =>
      have hd : ¬ d.isDigit = true := by simp [hr d rfl]
      exact if_neg hd
  · rw [List.cons_append, readWhole]
    · exact readDigits_eq_ok hw.1 hr
    · intro t ht
      exact hc (List.cons.inj ht).1

theorem whole_of_readWhole {s w r : List Char} (h : readWhole s = .ok (w, r)) :
    IsWhole w ∧ s = w ++ r := by
  have zero : IsWhole ['0'] := ⟨⟨by simp, by simp⟩, fun _ => rfl⟩
  unfold readWhole at h
  split at h
  · split at h
    · split at h
      · simp at h
      · simp only [Except.ok.injEq, Prod.mk.injEq] at h
        obtain ⟨rfl, rfl⟩ := h
        exact ⟨zero, rfl⟩
    · simp only [Except.ok.injEq, Prod.mk.injEq] at h
      obtain ⟨rfl, rfl⟩ := h
      exact ⟨zero, rfl⟩
  · next hz =>
    unfold readDigits at h
    split at h
    · simp at h
    · next c t =>
      split at h
      · next hc =>
        obtain ⟨rfl, rfl⟩ := Prod.mk.inj (Except.ok.inj h)
        have hcons : List.takeWhile Char.isDigit (c :: t) = c :: t.takeWhile Char.isDigit :=
          List.takeWhile_cons_of_pos hc
        refine ⟨⟨⟨by simp [hcons], fun d hd => List.mem_takeWhile_imp hd⟩, fun h0 => ?_⟩,
          spanDigits_eq (c :: t)⟩
        obtain rfl : c = '0' := by simpa [hcons] using h0
        exact absurd rfl (hz t)
      · simp at h

theorem readFraction_of_ne {r : List Char} (h : ∀ c ∈ r.head?, c ≠ '.') :
    readFraction r = .ok (none, r) := by
  rw [readFraction]
  rintro s rfl
  exact h '.' rfl rfl

theorem eq_of_readFraction {s r : List Char} (h : readFraction s = .ok (none, r)) : s = r := by
  unfold readFraction at h
  split at h
  · split at h <;> simp at h
  · simpa using h

theorem readExponent_of_ne {r : List Char} (h : ∀ c ∈ r.head?, c ≠ 'e' ∧ c ≠ 'E') :
    readExponent r = .ok (none, r) := by
  cases r with
  | nil => rfl
  | cons c r => exact if_neg (not_or.mpr (h c rfl))

theorem eq_of_readExponent {s r : List Char} (h : readExponent s = .ok (none, r)) : s = r := by
  unfold readExponent at h
  split at h
  · simpa using h
  · split at h
    · split at h <;> simp at h
    · simpa using h

/-- Digits whose number fits 64 bits are all absorbed. -/
theorem absorb_of_le {n : Nat} {ds : List Char} (h : Nat.ofDigitChars 10 ds n ≤ greatestWord) :
    absorb n ds = (Nat.ofDigitChars 10 ds n, 0) := by
  induction ds generalizing n with
  | nil => rfl
  | cons d ds ih =>
    have hle := Digits.le_ofDigitChars (10 * n + (d.toNat - 48)) ds
    rw [Nat.ofDigitChars_cons] at h ⊢
    rw [absorb, Digits.value_singleton, if_neg (Nat.not_lt.mpr (Nat.le_trans hle h))]
    exact ih h

/-- If no digit is left over, the number is that of all digits. -/
theorem eq_of_absorb {n m : Nat} {ds : List Char} (h : absorb n ds = (m, 0)) :
    m = Nat.ofDigitChars 10 ds n := by
  induction ds generalizing n with
  | nil =>
    rw [absorb, Prod.mk.injEq] at h
    rw [Nat.ofDigitChars_nil, h.1]
  | cons d ds ih =>
    rw [absorb] at h
    split at h
    · simp at h
    · rw [Nat.ofDigitChars_cons]
      exact ih (Digits.value_singleton d ▸ h)

/-- Only a zero is worth nothing. -/
theorem IsWhole.value_eq_zero_iff {w : List Char} (hw : IsWhole w) :
    Digits.value w = 0 ↔ w = ['0'] := by
  constructor
  · intro h
    obtain ⟨c, s, rfl, hc⟩ := hw.1.exists_cons
    have hle := Digits.le_ofDigitChars (c.toNat - 48) s
    have hval : Digits.value (c :: s) = Nat.ofDigitChars 10 s (c.toNat - 48) := by
      rw [Digits.value, Nat.ofDigitChars_cons, Nat.mul_zero, Nat.zero_add]
      rfl
    have hlow : 48 ≤ c.toNat := by
      simp only [Char.isDigit, Bool.and_eq_true, decide_eq_true_eq] at hc
      exact hc.1
    have hcz : c = '0' := Char.toNat_inj.mp (show c.toNat = 48 by omega)
    exact hw.2 (by rw [hcz]; rfl)
  · rintro rfl
    rfl

/-- A number is an integer only without fraction and exponent; its value is then that of its
digits, and minus zero is none. -/
theorem eq_of_ofParts? {negative : Bool} {w : List Char} {f : Option (List Char)} {e : Option Int}
    {k : Int} (h : Number.ofParts? negative w f e = some (.integer k)) :
    f = none ∧ e = none ∧ (negative = false → k = Digits.value w) ∧
      (negative = true → Digits.value w ≠ 0 ∧ k = -(Digits.value w : Int)) := by
  unfold Number.ofParts? at h
  cases ha : absorb 0 w with
  | mk n left =>
    simp only [ha] at h
    split at h
    · have hn : n = Digits.value w := eq_of_absorb ha
      split at h
      · next hneg =>
        split at h
        · simp at h
        · next hrange =>
          simp only [Option.some.injEq, Number.integer.injEq] at h
          refine ⟨rfl, rfl, by simp [hneg], fun _ => ⟨by omega, by omega⟩⟩
      · next hneg =>
        simp only [Option.some.injEq, Number.integer.injEq] at h
        exact ⟨rfl, rfl, fun _ => by omega, fun ht => absurd ht hneg⟩
    · simp at h

theorem ofParts?_positive {w : List Char} (h : Digits.value w ≤ greatestWord) :
    Number.ofParts? false w none none = some (.integer (Digits.value w)) := by
  unfold Number.ofParts?
  rw [absorb_of_le h]
  rfl

theorem ofParts?_negative {w : List Char} (h0 : Digits.value w ≠ 0)
    (h : Digits.value w ≤ 9223372036854775808) :
    Number.ofParts? true w none none = some (.integer (-(Digits.value w : Int))) := by
  have hle : Digits.value w ≤ greatestWord := Nat.le_trans h (by decide)
  unfold Number.ofParts?
  rw [absorb_of_le hle]
  exact if_neg (not_or.mpr ⟨h0, Nat.not_lt.mpr h⟩)

/-- An integer is read together with all of its digits. -/
theorem readNumber_eq_ok {negative : Bool} {w r : List Char} {n : Number} (hw : IsWhole w)
    (hr : Delimited r) (hn : Number.ofParts? negative w none none = some n) :
    readNumber negative (w ++ r) = .ok (n, r) := by
  unfold readNumber
  simp only [readWhole_eq_ok hw hr.noDigit, readFraction_of_ne fun c hc => (hr c hc).2.1,
    readExponent_of_ne fun c hc => (hr c hc).2.2, hn, bind, Except.bind]

/-- What is read as an integer is a run of digits. -/
theorem exists_whole_of_readNumber {negative : Bool} {s r : List Char} {k : Int}
    (h : readNumber negative s = .ok (.integer k, r)) :
    ∃ w, IsWhole w ∧ s = w ++ r ∧ (negative = false → k = Digits.value w) ∧
      (negative = true → Digits.value w ≠ 0 ∧ k = -(Digits.value w : Int)) := by
  unfold readNumber at h
  obtain ⟨⟨w, s₁⟩, hw, hnext⟩ := bind_eq_ok_iff.mp h
  obtain ⟨⟨f, s₂⟩, hf, hnext'⟩ := bind_eq_ok_iff.mp hnext
  obtain ⟨⟨e, s₃⟩, he, hlast⟩ := bind_eq_ok_iff.mp hnext'
  simp only at hlast
  split at hlast
  · next hn =>
    simp only [Except.ok.injEq, Prod.mk.injEq] at hlast
    obtain ⟨rfl, rfl⟩ := hlast
    -- an integer has neither fraction nor exponent, so that nothing stands after its digits
    obtain ⟨rfl, rfl, hpos, hneg⟩ := eq_of_ofParts? hn
    obtain ⟨hwhole, rfl⟩ := whole_of_readWhole hw
    obtain rfl := eq_of_readFraction hf
    obtain rfl := eq_of_readExponent he
    exact ⟨w, hwhole, rfl, hpos, hneg⟩
  · simp at hlast

theorem IntegerText.exists_cons {n : Int} {v : List Char} (h : IntegerText n v) :
    ∃ c s, v = c :: s ∧ (c = '-' ∨ c.isDigit = true) := by
  cases h with
  | positive hw =>
    obtain ⟨c, s, hs, hc⟩ := hw.1.exists_cons
    exact ⟨c, s, hs, .inr hc⟩
  | negative hw h0 => exact ⟨_, _, rfl, .inl rfl⟩

theorem isBlank_eq_false_of_integer {c : Char} (h : c = '-' ∨ c.isDigit = true) :
    isBlank c = false := by
  rcases h with rfl | h
  · rfl
  · simp only [isBlank, Bool.or_eq_false_iff, decide_eq_false_iff_not]
    refine ⟨⟨⟨?_, ?_⟩, ?_⟩, ?_⟩ <;>
      · rintro rfl
        exact absurd h (by decide)

/-- **An integer within bounds is read up to where it ends.** -/
theorem readInt32_eq_ok {n : Int32} {w v r : List Char} (hb : Blanks w)
    (hv : IntegerText n.toInt v) (hr : Delimited r) : readInt32 (w ++ (v ++ r)) = .ok (n, r) := by
  obtain ⟨c, s, hcs, hc⟩ := hv.exists_cons
  have hlow : -2147483648 ≤ n.toInt := n.le_toInt
  have hhigh : n.toInt < 2147483648 := n.toInt_lt
  have hto : Number.toInt32 (.integer n.toInt) = .ok n := by
    rw [Number.toInt32, if_pos ⟨hlow, by omega⟩, Int32.ofInt_toInt]
  -- the reader is given the digits alone, the sign apart
  have hread : readNumber (c = '-') (if c = '-' then s ++ r else c :: (s ++ r))
      = .ok (.integer n.toInt, r) := by
    generalize n.toInt = k at *
    cases hv with
    | @positive ds hw =>
      subst hcs
      have hne : c ≠ '-' := by
        rintro rfl
        exact absurd (hw.1.2 '-' List.mem_cons_self) (by decide)
      rw [if_neg hne, decide_eq_false hne]
      refine readNumber_eq_ok hw hr (ofParts?_positive ?_)
      have : 2147483648 ≤ greatestWord := by decide
      omega
    | @negative ds hw h0 =>
      obtain ⟨rfl, rfl⟩ := List.cons.inj hcs
      rw [if_pos rfl, decide_eq_true rfl]
      refine readNumber_eq_ok hw hr (ofParts?_negative (fun h => h0 (hw.value_eq_zero_iff.mp h)) ?_)
      omega
  subst hcs
  rw [readInt32, List.cons_append, skipBlanks_append hb (isBlank_eq_false_of_integer hc)]
  simp only [if_pos hc, hread, hto]

/-- **What is read as an integer is one within bounds.** -/
theorem exists_integer_of_readInt32 {s r : List Char} {n : Int32} (h : readInt32 s = .ok (n, r)) :
    ∃ w v, Blanks w ∧ IntegerText n.toInt v ∧ s = w ++ (v ++ r) := by
  unfold readInt32 at h
  split at h
  · simp at h
  · next c s' hb =>
    obtain ⟨w, hw, rfl⟩ := exists_blanks_of_skipBlanks hb
    split at h
    · next hc =>
      split at h
      · simp at h
      · next m s'' hn =>
        split at h
        · simp at h
        · next n' hto =>
          simp only [Except.ok.injEq, Prod.mk.injEq] at h
          obtain ⟨rfl, rfl⟩ := h
          unfold Number.toInt32 at hto
          split at hto
          · next k =>
            split at hto
            · next hk =>
              obtain rfl := Except.ok.inj hto
              -- within bounds the number is that of the text, and no other modulo 2 ^ 32
              have hround : (Int32.ofInt k).toInt = k :=
                Int32.toInt_ofInt_of_le hk.1 (Int.lt_add_one_of_le hk.2)
              rw [hround]
              obtain ⟨ds, hds, hs, hpos, hneg⟩ := exists_whole_of_readNumber hn
              by_cases hm : c = '-'
              · obtain ⟨h0, rfl⟩ := hneg (decide_eq_true hm)
                rw [if_pos hm] at hs
                exact ⟨w, '-' :: ds, hw, .negative hds fun hz => h0 (hds.value_eq_zero_iff.mpr hz),
                  by rw [hm, hs]; rfl⟩
              · obtain rfl := hpos (decide_eq_false hm)
                rw [if_neg hm] at hs
                exact ⟨w, ds, hw, .positive hds, by rw [hs]⟩
            · simp at hto
          · simp at hto
    · simp at h

/-! ## Written integers -/

theorem isWhole_toDigits (n : Nat) : IsWhole (Nat.toDigits 10 n) := by
  refine ⟨⟨Nat.toDigits_ne_nil, fun c hc => Nat.isDigit_of_mem_toDigits (by decide) (by decide) hc⟩,
    fun h0 => ?_⟩
  obtain ⟨s, hs⟩ := List.head?_eq_some_iff.mp h0
  rw [Digits.eq_zero_of_toDigits_eq hs, Nat.toDigits_zero]

/-- **An integer is written as its grammar demands.** -/
theorem integerText_signed (n : Int) : IntegerText n (Digits.signed n) := by
  unfold Digits.signed
  have hval := Digits.value_toDigits n.natAbs
  split
  · next hneg =>
    have hw := isWhole_toDigits n.natAbs
    have h0 : Nat.toDigits 10 n.natAbs ≠ ['0'] := by
      intro h
      rw [hw.value_eq_zero_iff.mpr h] at hval
      omega
    have ht := IntegerText.negative hw h0
    rwa [hval, show -(n.natAbs : Int) = n by omega] at ht
  · next hpos =>
    have ht := IntegerText.positive (isWhole_toDigits n.natAbs)
    rwa [hval, show (n.natAbs : Int) = n by omega] at ht

end UserDirectory.Json
