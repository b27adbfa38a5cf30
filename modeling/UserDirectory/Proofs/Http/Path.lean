import UserDirectory.Http.Uri
import UserDirectory.Proofs.Text.Utf8

/-!
# Raw paths and match paths

Routes are compared with the match path, while the raw path is what a request carries. An ASCII text
stands at the front of the match path exactly when the raw path spells it there, each character
written as it is or as its escape (`Spelled`). The percent sign, the slash and the plus sign are
found only where they are written as they are, since their escapes are kept.

The bytes in between may be anything: an escape may stand for a byte that is no character, and
escapes that are kept show as they are written.
-/

namespace UserDirectory

theorem Digits.lt_of_hexValue? {c : Char} {n : Nat} (h : hexValue? c = some n) : n < 16 := by
  unfold hexValue? at h
  split at h
  · next hc =>
    have hle : c.toNat ≤ 57 := hc.2
    obtain rfl := Option.some.inj h
    omega
  split at h
  · next hc =>
    have hle : c.toNat ≤ 102 := hc.2
    obtain rfl := Option.some.inj h
    omega
  split at h
  · next hc =>
    have hle : c.toNat ≤ 70 := hc.2
    obtain rfl := Option.some.inj h
    omega
  · cases h

theorem Digits.exists_of_hexNumber? {a b : Char} {n : Nat} (h : hexNumber? [a, b] = some n) :
    ∃ p q, hexValue? a = some p ∧ hexValue? b = some q ∧ n = 16 * p + q := by
  simp only [hexNumber?, List.foldlM_cons, List.foldlM_nil, Option.bind_eq_bind,
    Option.bind_eq_some_iff, Option.map_eq_some_iff, Option.pure_def, Option.some.injEq] at h
  obtain ⟨x, ⟨p, hp, rfl⟩, y, ⟨q, hq, rfl⟩, rfl⟩ := h
  exact ⟨p, q, hp, hq, by omega⟩

/-- Two hexadecimal digits denote a byte. -/
theorem Digits.lt_of_hexNumber? {a b : Char} {n : Nat} (h : hexNumber? [a, b] = some n) :
    n < 256 := by
  obtain ⟨p, q, hp, hq, rfl⟩ := exists_of_hexNumber? h
  have := lt_of_hexValue? hp
  have := lt_of_hexValue? hq
  omega

namespace Uri

open Utf8 (asciiByte)

/-- The text with each of its characters written as it is or as an escape. -/
inductive Spelled : List Char → List Char → Prop where
  | nil : Spelled [] []
  | literal {c : Char} {text s : List Char} : Spelled text s → Spelled (c :: text) (c :: s)
  | escape {a b c : Char} {text s : List Char} : Digits.hexNumber? [a, b] = some c.toNat →
      Spelled text s → Spelled (c :: text) ('%' :: a :: b :: s)

theorem Spelled.slash_notMem {text s : List Char} (h : Spelled text s)
    (htext : '/' ∉ text) : '/' ∉ s := by
  induction h with
  | nil => exact htext
  | literal _ ih =>
    rw [List.mem_cons, not_or] at htext ⊢
    exact ⟨htext.1, ih htext.2⟩
  | escape hhex _ ih =>
    rw [List.mem_cons, not_or] at htext
    obtain ⟨p, q, hp, hq, -⟩ := Digits.exists_of_hexNumber? hhex
    simp only [List.mem_cons, not_or]
    refine ⟨by decide, ?_, ?_, ih htext.2⟩
    · rintro rfl
      cases hp
    · rintro rfl
      cases hq

theorem Spelled.self (text : List Char) : Spelled text text := by
  induction text with
  | nil => exact .nil
  | cons c text ih => exact .literal ih

/-! ## Bytes of a path -/

theorem escapedByte?_eq_some_iff {a b : Char} {byte : UInt8} :
    escapedByte? a b = some byte ↔
      ∃ n, Digits.hexNumber? [a, b] = some n ∧ isKept n = false ∧ byte = UInt8.ofNat n := by
  unfold escapedByte?
  constructor
  · intro h
    split at h
    · next n hn =>
      split at h
      · cases h
      · next hkept => exact ⟨n, hn, by simpa using hkept, (Option.some.inj h).symm⟩
    · cases h
  · rintro ⟨n, hn, hkept, rfl⟩
    simp only [hn, hkept]
    rfl

theorem unescape_eq_nil_iff {s : List Char} : unescape s = [] ↔ s = [] := by
  constructor
  · intro h
    unfold unescape at h
    split at h
    · split at h
      · cases h
      · cases h
    · exact absurd (List.append_eq_nil_iff.mp h).1 String.utf8EncodeChar_ne_nil
    · rfl
  · rintro rfl
    rfl

theorem unescape_literal {c : Char} (hc : c.toNat < 0x80) (hpercent : c ≠ '%') (s : List Char) :
    unescape (c :: s) = asciiByte c :: unescape s := by
  rw [unescape, Utf8.encodeChar_ascii hc]
  · rfl
  · intro a b rest heq
    exact absurd heq hpercent

theorem unescape_escape {a b c : Char} (hc : isKept c.toNat = false)
    (h : Digits.hexNumber? [a, b] = some c.toNat) (s : List Char) :
    unescape ('%' :: a :: b :: s) = asciiByte c :: unescape s := by
  have hbyte : escapedByte? a b = some (asciiByte c) :=
    escapedByte?_eq_some_iff.mpr ⟨_, h, hc, rfl⟩
  rw [unescape, hbyte]

/-- The byte of an ASCII character comes from the character itself or from its escape. -/
theorem exists_of_unescape_eq_cons {c : Char} (hc : c.toNat < 0x80) (hpercent : c ≠ '%')
    {s : List Char} {bytes : List UInt8} (h : unescape s = asciiByte c :: bytes) :
    (∃ r, s = c :: r ∧ unescape r = bytes) ∨
      isKept c.toNat = false ∧ ∃ a b r, s = '%' :: a :: b :: r ∧
        Digits.hexNumber? [a, b] = some c.toNat ∧ unescape r = bytes := by
  have hbyte := Utf8.toNat_asciiByte hc
  unfold unescape at h
  split at h
  · next a b r =>
    split at h
    · next byte hescaped =>
      obtain ⟨n, hn, hkept, rfl⟩ := escapedByte?_eq_some_iff.mp hescaped
      obtain ⟨hhead, htail⟩ := List.cons.inj h
      have hlt := Digits.lt_of_hexNumber? hn
      obtain rfl : n = c.toNat := by
        rw [← hhead, UInt8.toNat_ofNat'] at hbyte
        omega
      exact .inr ⟨hkept, a, b, r, rfl, hn, htail⟩
    · -- an escape that is kept shows a percent sign
      rw [← (List.cons.inj h).1] at hbyte
      exact absurd (Char.toNat_inj.mp (show '%'.toNat = c.toNat from hbyte)).symm hpercent
  · next d r _ =>
    by_cases hd : d.toNat < 0x80
    · rw [Utf8.encodeChar_ascii hd] at h
      obtain ⟨hhead, htail⟩ := List.cons.inj h
      have hnat := Utf8.toNat_asciiByte hd
      rw [hhead, hbyte] at hnat
      obtain rfl := Char.toNat_inj.mp hnat
      exact .inl ⟨r, rfl, htail⟩
    · -- no byte of a character beyond ASCII is ASCII
      obtain ⟨b, bytes', hencode, hb⟩ := Utf8.exists_cons_encodeChar (Nat.le_of_not_lt hd)
      rw [hencode] at h
      rw [(List.cons.inj h).1] at hb
      omega
  · cases h

/-- Text whose characters are ASCII and whose escapes are decoded. -/
def IsOpen (text : List Char) : Prop := ∀ c ∈ text, c.toNat < 0x80 ∧ isKept c.toNat = false

theorem ne_percent_of_isKept {c : Char} (h : isKept c.toNat = false) : c ≠ '%' := by
  rintro rfl
  exact absurd h (by decide)

/-- A path has the bytes of a text at its front exactly when it spells the text there. -/
theorem unescape_eq_append_iff {text : List Char} (htext : IsOpen text) {s : List Char}
    {bytes : List UInt8} :
    unescape s = text.map asciiByte ++ bytes ↔
      ∃ p r, Spelled text p ∧ s = p ++ r ∧ unescape r = bytes := by
  constructor
  · intro h
    induction text generalizing s with
    | nil => exact ⟨[], s, .nil, rfl, h⟩
    | cons c text ih =>
      obtain ⟨⟨hascii, hkept⟩, htext⟩ := List.forall_mem_cons.mp htext
      rcases exists_of_unescape_eq_cons hascii (ne_percent_of_isKept hkept) h with
        ⟨r, rfl, hr⟩ | ⟨-, a, b, r, rfl, hhex, hr⟩
      · obtain ⟨p, r', hp, rfl, hr'⟩ := ih htext hr
        exact ⟨c :: p, r', .literal hp, rfl, hr'⟩
      · obtain ⟨p, r', hp, rfl, hr'⟩ := ih htext hr
        exact ⟨'%' :: a :: b :: p, r', .escape hhex hp, rfl, hr'⟩
  · rintro ⟨p, r, hp, rfl, rfl⟩
    induction hp with
    | nil => rfl
    | literal _ ih =>
      obtain ⟨⟨hascii, hkept⟩, htext⟩ := List.forall_mem_cons.mp htext
      rw [List.cons_append, unescape_literal hascii (ne_percent_of_isKept hkept), ih htext]
      rfl
    | escape hhex _ ih =>
      obtain ⟨⟨-, hkept⟩, htext⟩ := List.forall_mem_cons.mp htext
      rw [List.cons_append, List.cons_append, List.cons_append, unescape_escape hkept hhex,
        ih htext]
      rfl

/-- A slash comes from a slash only. -/
theorem unescape_eq_slash_iff {s : List Char} {bytes : List UInt8} :
    unescape s = asciiByte '/' :: bytes ↔ ∃ r, s = '/' :: r ∧ unescape r = bytes := by
  constructor
  · intro h
    rcases exists_of_unescape_eq_cons (by decide) (by decide) h with hliteral | ⟨hkept, -⟩
    · exact hliteral
    · exact absurd hkept (by decide)
  · rintro ⟨r, rfl, rfl⟩
    exact unescape_literal (by decide) (by decide) r

/-! ## Match paths -/

/-- The match path is the root exactly when the raw path is. -/
theorem matchPath_eq_root_iff {u : Uri} : u.matchPath = ['/'] ↔ u.path.toList = ['/'] := by
  rw [matchPath, Utf8.decodeLossy_eq_cons_iff (by decide)]
  constructor
  · rintro ⟨rest, hbytes, hrest⟩
    obtain rfl := Utf8.decodeLossy_eq_nil_iff.mp hrest
    obtain ⟨r, hr, hnil⟩ := unescape_eq_slash_iff.mp hbytes
    rw [hr, unescape_eq_nil_iff.mp hnil]
  · intro h
    exact ⟨[], unescape_eq_slash_iff.mpr ⟨[], h, rfl⟩, by simp [Utf8.decodeLossy, Utf8.pieces]⟩

/-- The match path begins with a segment between slashes exactly when the raw path does, the segment
spelled in some way. -/
theorem segment_prefix_matchPath_iff {u : Uri} {segment : List Char} (h : IsOpen segment) :
    '/' :: (segment ++ ['/']) <+: u.matchPath ↔
      ∃ s rest, Spelled segment s ∧ u.path.toList = '/' :: (s ++ '/' :: rest) := by
  have hascii : ∀ c ∈ '/' :: (segment ++ ['/']), c.toNat < 0x80 := by
    intro c hc
    rcases List.mem_cons.mp hc with rfl | hc
    · decide
    · rcases List.mem_append.mp hc with hc | hc
      · exact (h c hc).1
      · rw [List.mem_singleton.mp hc]
        decide
  constructor
  · rintro ⟨t, ht⟩
    obtain ⟨bytes, hbytes, -⟩ := (Utf8.decodeLossy_eq_append_iff hascii).mp ht.symm
    rw [List.map_cons, List.map_append, List.cons_append, List.append_assoc] at hbytes
    obtain ⟨r, hr, hsegment⟩ := unescape_eq_slash_iff.mp hbytes
    obtain ⟨s, r', hs, rfl, hslash⟩ := (unescape_eq_append_iff h).mp hsegment
    obtain ⟨rest, rfl, -⟩ := unescape_eq_slash_iff.mp hslash
    exact ⟨s, rest, hs, hr⟩
  · rintro ⟨s, rest, hs, hpath⟩
    refine ⟨Utf8.decodeLossy (unescape rest), ?_⟩
    symm
    rw [matchPath, Utf8.decodeLossy_eq_append_iff hascii]
    refine ⟨unescape rest, ?_, rfl⟩
    rw [hpath, unescape_eq_slash_iff.mpr ⟨_, rfl, rfl⟩,
      (unescape_eq_append_iff h).mpr ⟨s, '/' :: rest, hs, rfl, rfl⟩,
      unescape_eq_slash_iff.mpr ⟨_, rfl, rfl⟩]
    simp

/-! ## Targets -/

/-- The raw path of a target goes up to the query or the fragment. -/
theorem path_of_parse? {target : String} {u : Uri} {p suffix : List Char}
    (htarget : target.toList = '/' :: (p ++ suffix)) (hp : ∀ c ∈ p, endsPath c = false)
    (hsuffix : ∀ c ∈ suffix.head?, endsPath c = true) (h : parse? target = some u) :
    u.path = String.ofList ('/' :: p) := by
  have hpath : ('/' :: (p ++ suffix)).takeWhile (fun c => !endsPath c) = '/' :: p := by
    rw [List.takeWhile_cons_of_pos (by decide),
      List.takeWhile_append_of_pos fun c hc => by rw [hp c hc]; rfl]
    cases suffix with
    | nil => rw [List.takeWhile_nil, List.append_nil]
    | cons c suffix =>
      rw [List.takeWhile_cons_of_neg (by simp [hsuffix c rfl]), List.append_nil]
  unfold parse? at h
  rw [htarget] at h
  split at h
  · cases h
  · simp only [pathAndQuery?, hpath] at h
    split at h
    · obtain ⟨query, -, rfl⟩ := Option.map_eq_some_iff.mp h
      rfl
    · cases h

end Uri

end UserDirectory
