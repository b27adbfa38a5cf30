import Mathlib.Data.List.TakeWhile
import UserDirectory.Json.Literal
import UserDirectory.Proofs.Text.Digits

/-!
# The grammar of string literals

What may stand between two quotes, and what it spells.

* `WritesChar e c`: the characters `e` write the character `c`, literally or as an escape
* `Spells s t`: the characters `s` between the quotes spell the text `t`
* `Passes s`: the same for a literal that is only passed over, where an escape needs four
  hexadecimal digits and surrogates may stand alone

Reading accepts exactly what spells a text (`readString_eq_ok_iff`), passing over exactly what
passes (`skipString_eq_ok_iff`), and a written literal spells the text it was written for
(`spells_escape`).
-/

namespace UserDirectory.Json

/-! ## Blanks -/

/-- A run of blanks, empty or not. -/
def Blanks (w : List Char) : Prop := ∀ c ∈ w, isBlank c = true

theorem Blanks.nil : Blanks [] := by
  intro c hc
  cases hc

theorem Blanks.append {w w' : List Char} (h : Blanks w) (h' : Blanks w') : Blanks (w ++ w') := by
  intro c hc
  rcases List.mem_append.mp hc with hc | hc
  · exact h c hc
  · exact h' c hc

/-- The blanks in front of a character that is none are skipped, and no more. -/
theorem skipBlanks_append {w s : List Char} {c : Char} (hw : Blanks w) (hc : isBlank c = false) :
    skipBlanks (w ++ c :: s) = c :: s := by
  rw [skipBlanks, List.dropWhile_append_of_pos hw, List.dropWhile_cons_of_neg (by simp [hc])]

theorem skipBlanks_eq_nil {w : List Char} (hw : Blanks w) : skipBlanks w = [] :=
  List.dropWhile_eq_nil_iff.mpr hw

theorem exists_blanks (s : List Char) : ∃ w, Blanks w ∧ s = w ++ skipBlanks s :=
  ⟨s.takeWhile isBlank, fun _ hc => List.mem_takeWhile_imp hc, List.takeWhile_append_dropWhile.symm⟩

theorem exists_blanks_of_skipBlanks {s r : List Char} {c : Char} (h : skipBlanks s = c :: r) :
    ∃ w, Blanks w ∧ s = w ++ c :: r := by
  obtain ⟨w, hw, hs⟩ := exists_blanks s
  exact ⟨w, hw, h ▸ hs⟩

/-- Blanks are told apart from what stands behind them. -/
theorem Blanks.append_cons_inj {w w' s s' : List Char} {c c' : Char} (hw : Blanks w)
    (hw' : Blanks w') (hc : isBlank c = false) (hc' : isBlank c' = false)
    (h : w ++ c :: s = w' ++ c' :: s') : c = c' ∧ s = s' := by
  have hskip := congrArg skipBlanks h
  rw [skipBlanks_append hw hc, skipBlanks_append hw' hc'] at hskip
  exact List.cons.inj hskip

/-! ## Grammar -/

/-- The letters that may follow a backslash, with the characters they name. -/
def shortForms : List (Char × Char) :=
  [('"', '"'), ('\\', '\\'), ('/', '/'), ('b', '\x08'), ('f', '\x0c'), ('n', '\n'), ('r', '\r'),
    ('t', '\t')]

/-- A character that stands for itself between quotes: no quote, no backslash, no control. -/
def IsPlain (c : Char) : Prop := c ≠ '"' ∧ c ≠ '\\' ∧ 0x20 ≤ c.toNat

/-- The first half of a surrogate pair. -/
def IsHighSurrogate (n : Nat) : Prop := 0xD800 ≤ n ∧ n ≤ 0xDBFF

/-- The second half of a surrogate pair. -/
def IsLowSurrogate (n : Nat) : Prop := 0xDC00 ≤ n ∧ n ≤ 0xDFFF

/-- The code point above U+FFFF that a pair of surrogates stands for. -/
def supplementary (high low : Nat) : Char :=
  Char.ofNat (0x10000 + (high - 0xD800) * 0x400 + (low - 0xDC00))

/-- The characters that write one character between quotes. -/
inductive WritesChar : List Char → Char → Prop where
  | plain {c : Char} : IsPlain c → WritesChar [c] c
  | short {e c : Char} : (e, c) ∈ shortForms → WritesChar ['\\', e] c
  /-- Four hexadecimal digits, unless they are half of a pair. -/
  | unit {a b c d : Char} {n : Nat} : Digits.hexNumber? [a, b, c, d] = some n →
      ¬ IsHighSurrogate n → ¬ IsLowSurrogate n →
      WritesChar ['\\', 'u', a, b, c, d] (Char.ofNat n)
  /-- A code point above U+FFFF as a pair of surrogates. -/
  | pair {a b c d a' b' c' d' : Char} {high low : Nat} :
      Digits.hexNumber? [a, b, c, d] = some high → IsHighSurrogate high →
      Digits.hexNumber? [a', b', c', d'] = some low → IsLowSurrogate low →
      WritesChar ['\\', 'u', a, b, c, d, '\\', 'u', a', b', c', d'] (supplementary high low)

/-- The characters between two quotes that spell a text. -/
inductive Spells : List Char → List Char → Prop where
  | nil : Spells [] []
  | cons {e s t : List Char} {c : Char} : WritesChar e c → Spells s t → Spells (e ++ s) (c :: t)

/-- The characters of one character that is only passed over. -/
inductive PassesChar : List Char → Prop where
  | plain {c : Char} : IsPlain c → PassesChar [c]
  | short {e c : Char} : (e, c) ∈ shortForms → PassesChar ['\\', e]
  | unit {a b c d : Char} {n : Nat} : Digits.hexNumber? [a, b, c, d] = some n →
      PassesChar ['\\', 'u', a, b, c, d]

/-- The characters between two quotes of a literal that is only passed over. -/
inductive Passes : List Char → Prop where
  | nil : Passes []
  | cons {e s : List Char} : PassesChar e → Passes s → Passes (e ++ s)

/-! ## Escapes -/

theorem shortEscape?_eq_some_iff {e c : Char} :
    shortEscape? e = some c ↔ (e, c) ∈ shortForms := by
  constructor
  · intro h
    unfold shortEscape? at h
    split at h
    · next he =>
      obtain rfl := Option.some.inj h
      rcases he with rfl | rfl | rfl <;> decide
    · iterate 5
        split at h
        · next he =>
          obtain rfl := Option.some.inj h
          subst he
          decide
      simp at h
  · intro h
    simp only [shortForms, List.mem_cons, Prod.mk.injEq, List.not_mem_nil, or_false] at h
    rcases h with ⟨rfl, rfl⟩ | ⟨rfl, rfl⟩ | ⟨rfl, rfl⟩ | ⟨rfl, rfl⟩ | ⟨rfl, rfl⟩ | ⟨rfl, rfl⟩ |
      ⟨rfl, rfl⟩ | ⟨rfl, rfl⟩ <;> rfl

/-- The letter `u` begins an escape of its own. -/
theorem shortForms_ne_u {e c : Char} (h : (e, c) ∈ shortForms) : e ≠ 'u' := by
  rintro rfl
  simp [shortForms] at h

theorem hexFour_eq_ok_iff {s r : List Char} {n : Nat} :
    hexFour s = .ok (n, r) ↔
      ∃ a b c d, s = a :: b :: c :: d :: r ∧ Digits.hexNumber? [a, b, c, d] = some n := by
  constructor
  · intro h
    unfold hexFour at h
    split at h
    · next a b c d s =>
      split at h
      · next m hm =>
        simp only [Except.ok.injEq, Prod.mk.injEq] at h
        obtain ⟨rfl, rfl⟩ := h
        exact ⟨a, b, c, d, rfl, hm⟩
      · simp at h
    · split at h <;> simp at h
  · rintro ⟨a, b, c, d, rfl, hn⟩
    rw [hexFour, hn]

theorem lowSurrogate_eq_ok_iff {high : Nat} {s r : List Char} {x : Char} :
    lowSurrogate high s = .ok (x, r) ↔
      ∃ a b c d low, s = '\\' :: 'u' :: a :: b :: c :: d :: r ∧
        Digits.hexNumber? [a, b, c, d] = some low ∧ IsLowSurrogate low ∧
        x = supplementary high low := by
  constructor
  · intro h
    unfold lowSurrogate at h
    split at h
    · split at h
      · simp at h
      · next low s' hx =>
        obtain ⟨a, b, c, d, rfl, hn⟩ := hexFour_eq_ok_iff.mp hx
        split at h
        · next hlow =>
          simp only [Except.ok.injEq, Prod.mk.injEq] at h
          obtain ⟨hx, rfl⟩ := h
          exact ⟨a, b, c, d, low, rfl, hn, hlow, hx.symm⟩
        · simp at h
    all_goals simp at h
  · rintro ⟨a, b, c, d, low, rfl, hn, hlow, hx⟩
    rw [lowSurrogate, hexFour_eq_ok_iff.mpr ⟨a, b, c, d, rfl, hn⟩, hx]
    exact if_pos hlow

theorem readEscape_eq_ok_iff {s r : List Char} {x : Char} :
    readEscape s = .ok (x, r) ↔ ∃ e, WritesChar ('\\' :: e) x ∧ s = e ++ r := by
  constructor
  · intro h
    unfold readEscape at h
    split at h
    · simp at h
    · split at h
      · simp at h
      · next n s' hx =>
        obtain ⟨a, b, c, d, rfl, hn⟩ := hexFour_eq_ok_iff.mp hx
        split at h
        · simp at h
        · next hlow =>
          split at h
          · next hhigh =>
            obtain ⟨a', b', c', d', low, rfl, hn', hlow', hx⟩ := lowSurrogate_eq_ok_iff.mp h
            rw [hx]
            exact ⟨_, .pair hn hhigh hn' hlow', rfl⟩
          · next hhigh =>
            simp only [Except.ok.injEq, Prod.mk.injEq] at h
            obtain ⟨rfl, rfl⟩ := h
            exact ⟨_, .unit hn hhigh hlow, rfl⟩
    · next c s' _ =>
      split at h
      · next d hd =>
        simp only [Except.ok.injEq, Prod.mk.injEq] at h
        obtain ⟨rfl, rfl⟩ := h
        exact ⟨[c], .short (shortEscape?_eq_some_iff.mp hd), rfl⟩
      · simp at h
  · rintro ⟨e, he, rfl⟩
    cases he with
    | plain h => exact absurd rfl h.2.1
    | short h =>
      rw [List.singleton_append, readEscape.eq_def]
      split
      · simp_all
      · next heq =>
        exact absurd (List.cons.inj heq).1 (shortForms_ne_u h)
      · next heq =>
        obtain ⟨rfl, rfl⟩ := List.cons.inj heq
        rw [shortEscape?_eq_some_iff.mpr h]
    | @unit a b c d n hn hhigh hlow =>
      show readEscape ('u' :: a :: b :: c :: d :: r) = _
      rw [readEscape, hexFour_eq_ok_iff.mpr ⟨a, b, c, d, rfl, hn⟩]
      exact (if_neg hlow).trans (if_neg hhigh)
    | @pair a b c d a' b' c' d' high low hn hhigh hn' hlow' =>
      -- the first half of a pair is not refused as a second half
      have hlow : ¬ IsLowSurrogate high := fun h => absurd (Nat.le_trans h.1 hhigh.2) (by decide)
      show readEscape ('u' :: a :: b :: c :: d :: '\\' :: 'u' :: a' :: b' :: c' :: d' :: r) = _
      rw [readEscape, hexFour_eq_ok_iff.mpr ⟨a, b, c, d, rfl, hn⟩]
      refine (if_neg hlow).trans ((if_pos hhigh).trans ?_)
      exact lowSurrogate_eq_ok_iff.mpr ⟨a', b', c', d', low, rfl, hn', hlow', rfl⟩

/-! ## Characters -/

theorem readChar_eq_none_iff {s r : List Char} : readChar s = .ok (none, r) ↔ s = '"' :: r := by
  constructor
  · intro h
    unfold readChar at h
    split at h
    · simp at h
    · split at h
      · next hc =>
        simp only [Except.ok.injEq, Prod.mk.injEq, true_and] at h
        rw [hc, h]
      · split at h
        · split at h <;> simp at h
        · split at h <;> simp at h
  · rintro rfl
    rfl

theorem readChar_eq_some_iff {s r : List Char} {c : Char} :
    readChar s = .ok (some c, r) ↔ ∃ e, WritesChar e c ∧ s = e ++ r := by
  constructor
  · intro h
    unfold readChar at h
    split at h
    · simp at h
    · next d s' =>
      split at h
      · simp at h
      · next hq =>
        split at h
        · next hb =>
          split at h
          · simp at h
          · next x s'' hx =>
            obtain ⟨e, he, rfl⟩ := readEscape_eq_ok_iff.mp hx
            simp only [Except.ok.injEq, Prod.mk.injEq, Option.some.injEq] at h
            obtain ⟨rfl, rfl⟩ := h
            exact ⟨_, he, by rw [hb]; rfl⟩
        · next hb =>
          split at h
          · simp at h
          · next hlow =>
            simp only [Except.ok.injEq, Prod.mk.injEq, Option.some.injEq] at h
            obtain ⟨rfl, rfl⟩ := h
            exact ⟨_, .plain ⟨hq, hb, by omega⟩, rfl⟩
  · rintro ⟨e, he, rfl⟩
    -- an escape goes through `readEscape`, whatever its form
    have escaped : ∀ e', e = '\\' :: e' → readChar (e ++ r) = .ok (some c, r) := by
      rintro e' rfl
      rw [List.cons_append, readChar, if_neg (by decide), if_pos rfl,
        readEscape_eq_ok_iff.mpr ⟨e', he, rfl⟩]
    cases he with
    | plain h => exact (if_neg h.1).trans ((if_neg h.2.1).trans (if_neg (by have := h.2.2; omega)))
    | short => exact escaped _ rfl
    | unit => exact escaped _ rfl
    | pair => exact escaped _ rfl

theorem skipChar_eq_false_iff {s r : List Char} : skipChar s = .ok (false, r) ↔ s = '"' :: r := by
  constructor
  · intro h
    unfold skipChar at h
    split at h
    · simp at h
    · split at h
      · next hc =>
        simp only [Except.ok.injEq, Prod.mk.injEq, true_and] at h
        rw [hc, h]
      · split at h
        · split at h
          · simp at h
          · split at h <;> simp at h
          · split at h <;> simp at h
        · split at h <;> simp at h
  · rintro rfl
    rfl

theorem skipChar_eq_true_iff {s r : List Char} :
    skipChar s = .ok (true, r) ↔ ∃ e, PassesChar e ∧ s = e ++ r := by
  constructor
  · intro h
    unfold skipChar at h
    split at h
    · simp at h
    · split at h
      · simp at h
      · next hq =>
        split at h
        · next hb =>
          split at h
          · simp at h
          · split at h
            · simp at h
            · next n s' hx =>
              obtain ⟨a, b, c, d, rfl, hn⟩ := hexFour_eq_ok_iff.mp hx
              simp only [Except.ok.injEq, Prod.mk.injEq, true_and] at h
              exact ⟨_, .unit hn, by rw [hb, h]; rfl⟩
          · next d s' _ =>
            split at h
            · next hd =>
              obtain ⟨x, hx⟩ := Option.isSome_iff_exists.mp hd
              simp only [Except.ok.injEq, Prod.mk.injEq, true_and] at h
              exact ⟨_, .short (shortEscape?_eq_some_iff.mp hx), by rw [hb, h]; rfl⟩
            · simp at h
        · next hb =>
          split at h
          · simp at h
          · next hlow =>
            simp only [Except.ok.injEq, Prod.mk.injEq, true_and] at h
            exact ⟨_, .plain ⟨hq, hb, by omega⟩, by rw [h]; rfl⟩
  · rintro ⟨e, he, rfl⟩
    cases he with
    | plain h => exact (if_neg h.1).trans ((if_neg h.2.1).trans (if_neg (by have := h.2.2; omega)))
    | @short e c h =>
      have hsome : (shortEscape? e).isSome := by simp [shortEscape?_eq_some_iff.mpr h]
      rw [List.cons_append, List.singleton_append, skipChar, if_neg (by decide), if_pos rfl,
        if_pos hsome]
      exact shortForms_ne_u h
    | @unit a b c d n hn =>
      show skipChar ('\\' :: 'u' :: a :: b :: c :: d :: r) = _
      rw [skipChar, if_neg (by decide), if_pos rfl]
      simp only [hexFour_eq_ok_iff.mpr ⟨a, b, c, d, rfl, hn⟩]

/-! ## Whole literals -/

theorem readString_spells {b t : List Char} (h : Spells b t) :
    ∀ seen r : List Char, readString seen (b ++ '"' :: r) = .ok (seen.reverse ++ t, r) := by
  induction h with
  | nil =>
    intro seen r
    rw [List.nil_append, readString, readChar_eq_none_iff.mpr rfl, List.append_nil]
  | @cons e s t c he _ ih =>
    intro seen r
    rw [List.append_assoc, readString, readChar_eq_some_iff.mpr ⟨e, he, rfl⟩]
    show readString (c :: seen) (s ++ '"' :: r) = _
    rw [ih (c :: seen) r, List.reverse_cons, List.append_assoc]
    rfl

theorem exists_spells_of_readString {seen s text r : List Char}
    (h : readString seen s = .ok (text, r)) :
    ∃ b t, Spells b t ∧ text = seen.reverse ++ t ∧ s = b ++ '"' :: r := by
  -- on the length of the text, of which one character may take up to twelve
  induction hn : s.length using Nat.strongRecOn generalizing seen s with
  | _ n ih =>
    rw [readString] at h
    split at h
    · simp at h
    · next hc =>
      simp only [Except.ok.injEq, Prod.mk.injEq] at h
      obtain ⟨rfl, rfl⟩ := h
      exact ⟨[], [], .nil, by simp, readChar_eq_none_iff.mp hc⟩
    · next c s' hc =>
      have hlt := readChar_length hc
      obtain ⟨e, he, rfl⟩ := readChar_eq_some_iff.mp hc
      obtain ⟨b, t, hb, ht, rfl⟩ := ih _ (by omega) h rfl
      exact ⟨e ++ b, c :: t, .cons he hb, by simp [ht], by simp⟩

/-- **Reading a literal accepts exactly what spells a text.** -/
theorem readString_eq_ok_iff {s text r : List Char} :
    readString [] s = .ok (text, r) ↔ ∃ b, Spells b text ∧ s = b ++ '"' :: r := by
  constructor
  · intro h
    obtain ⟨b, t, hb, rfl, hs⟩ := exists_spells_of_readString h
    exact ⟨b, hb, hs⟩
  · rintro ⟨b, hb, rfl⟩
    exact readString_spells hb [] r

/-- **Passing over a literal accepts exactly what passes.** -/
theorem skipString_eq_ok_iff {s r : List Char} :
    skipString s = .ok r ↔ ∃ b, Passes b ∧ s = b ++ '"' :: r := by
  constructor
  · intro h
    induction hn : s.length using Nat.strongRecOn generalizing s with
    | _ n ih =>
      rw [skipString] at h
      split at h
      · simp at h
      · next hc =>
        obtain rfl := Except.ok.inj h
        exact ⟨[], .nil, skipChar_eq_false_iff.mp hc⟩
      · next s' hc =>
        have hlt := skipChar_length hc
        obtain ⟨e, he, rfl⟩ := skipChar_eq_true_iff.mp hc
        obtain ⟨b, hb, rfl⟩ := ih _ (by omega) h rfl
        exact ⟨e ++ b, .cons he hb, by simp⟩
  · rintro ⟨b, hb, rfl⟩
    induction hb with
    | nil => rw [List.nil_append, skipString, skipChar_eq_false_iff.mpr rfl]
    | @cons e s he _ ih =>
      rw [List.append_assoc, skipString, skipChar_eq_true_iff.mpr ⟨e, he, rfl⟩]
      exact ih

/-- A literal ends at its closing quote, and spells one text. -/
theorem Spells.append_inj {b b' t t' r r' : List Char} (h : Spells b t) (h' : Spells b' t')
    (heq : b ++ '"' :: r = b' ++ '"' :: r') : t = t' ∧ r = r' := by
  have hread := readString_spells h [] r
  rw [heq, readString_spells h' [] r'] at hread
  obtain ⟨ht, hr⟩ := Prod.mk.inj (Except.ok.inj hread)
  exact ⟨ht.symm, hr.symm⟩

theorem WritesChar.passes {e : List Char} {c : Char} (h : WritesChar e c) : Passes e := by
  cases h with
  | plain hc => exact .cons (.plain hc) .nil
  | short hc => exact .cons (.short hc) .nil
  | unit hn _ _ => exact .cons (.unit hn) .nil
  | pair hhigh _ hlow _ => exact .cons (.unit hhigh) (.cons (.unit hlow) .nil)

theorem Passes.append {b b' : List Char} (h : Passes b) (h' : Passes b') : Passes (b ++ b') := by
  induction h with
  | nil => exact h'
  | cons he _ ih =>
    rw [List.append_assoc]
    exact .cons he ih

theorem Spells.passes {b t : List Char} (h : Spells b t) : Passes b := by
  induction h with
  | nil => exact .nil
  | cons he _ ih => exact he.passes.append ih

/-! ## Written literals -/

/-- The controls that have no short form read back from their four digits. -/
theorem hexNumber?_control {n : Nat} (h : n < 0x20) :
    ∃ a b c d, Digits.hexPadded 4 n = [a, b, c, d] ∧
      Digits.hexNumber? [a, b, c, d] = some n := by
  have hall : ∀ m ∈ List.range 0x20, (Digits.hexPadded 4 m).length = 4 ∧
      Digits.hexNumber? (Digits.hexPadded 4 m) = some m := by decide
  obtain ⟨hlen, hval⟩ := hall n (List.mem_range.mpr h)
  match hp : Digits.hexPadded 4 n, hlen with
  | [a, b, c, d], _ => exact ⟨a, b, c, d, rfl, hp ▸ hval⟩

/-- **An escaped character writes itself.** -/
theorem writesChar_escape (c : Char) : WritesChar (escape c) c := by
  unfold escape
  split
  · next h =>
    subst h
    exact .short (by decide)
  · next hq =>
    split
    · next h =>
      subst h
      exact .short (by decide)
    · next hb =>
      iterate 5
        split
        · next h =>
          subst h
          exact .short (by decide)
      split
      · next hlow =>
        obtain ⟨a, b, d, e, hx, hn⟩ := hexNumber?_control hlow
        have hw : WritesChar ['\\', 'u', a, b, d, e] (Char.ofNat c.toNat) :=
          .unit hn (fun h => by have := h.1; omega) (fun h => by have := h.1; omega)
        rw [hx]
        rwa [Char.ofNat_toNat] at hw
      · next hlow => exact .plain ⟨hq, hb, by omega⟩

/-- **A written literal spells its text.** -/
theorem spells_escape (text : List Char) : Spells (text.flatMap escape) text := by
  induction text with
  | nil => exact .nil
  | cons c text ih => exact .cons (writesChar_escape c) ih

end UserDirectory.Json
