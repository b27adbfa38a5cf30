import Mathlib.Data.List.Basic
import UserDirectory.Text.Utf8

/-!
# Pieces of a byte string

Splitting a byte string into pieces loses nothing: the bytes of a piece and those after it are the
bytes it was split from. In particular a piece shows an ASCII character only when it is that
character's byte, so that an ASCII text is found in what bytes show exactly when it is found in the
bytes.

Conversely the encoding of a text splits into the characters of the text, whatever follows, so that
strict reading accepts the encodings of texts and nothing else.

* `next_bytes`: a piece and what follows it make up the whole
* `decodeLossy_eq_cons_iff`: an ASCII character is shown for its byte and for nothing else
* `decode?_eq_some_iff`: strict reading is the inverse of writing
-/

namespace UserDirectory.Utf8

/-! ## Encodings -/

theorem toNat_ofNat {v : Nat} (h : v.isValidChar) : (Char.ofNat v).val.toNat = v := by
  unfold Char.ofNat
  rw [dif_pos h]
  rfl

/-- What bytes amount to after a lead byte with the given payload. -/
def amount (payload : Nat) (bytes : List UInt8) : Nat :=
  bytes.foldl (fun v b => v * 64 + (b.toNat - 0x80)) payload

theorem amount_cons (payload : Nat) (b : UInt8) (bytes : List UInt8) :
    amount payload (b :: bytes) = amount (payload * 64 + (b.toNat - 0x80)) bytes := by
  rw [amount, List.foldl_cons, amount]

/-- Bytes that continue an encoding. The first has bounds of its own. -/
def Continues (low high : UInt8) : List UInt8 → Prop
  | [] => True
  | b :: bytes => (low ≤ b ∧ b ≤ high) ∧ ∀ c ∈ bytes, 0x80 ≤ c ∧ c ≤ 0xBF

/-- Bytes after the first continue with the bounds that hold for all of them. -/
theorem continues_cons_iff {low high b : UInt8} {bytes : List UInt8} :
    Continues low high (b :: bytes) ↔ (low ≤ b ∧ b ≤ high) ∧ Continues 0x80 0xBF bytes := by
  refine and_congr_right fun _ => ?_
  cases bytes with
  | nil => simp [Continues]
  | cons c bytes => exact List.forall_mem_cons

theorem encode_one {b : UInt8} (h : b < 0x80) :
    String.utf8EncodeChar (Char.ofNat b.toNat) = [b] := by
  have hb : b.toNat < 128 := h
  rw [String.utf8EncodeChar, toNat_ofNat (.inl (by omega))]
  simp only [show b.toNat ≤ 127 by omega, if_true, UInt8.ofNat_toNat]

theorem ofNat_eq_of_toNat {n : Nat} {b : UInt8} (h : b.toNat = n) : UInt8.ofNat n = b := by
  rw [← h, UInt8.ofNat_toNat]

theorem encode_two {a b : UInt8} {v : Nat} (hv : v = (a.toNat - 0xC0) * 64 + (b.toNat - 0x80))
    (ha : 0xC2 ≤ a.toNat ∧ a.toNat ≤ 0xDF) (hb : 0x80 ≤ b.toNat ∧ b.toNat ≤ 0xBF) :
    String.utf8EncodeChar (Char.ofNat v) = [a, b] := by
  rw [String.utf8EncodeChar, toNat_ofNat (.inl (by omega))]
  simp only [show ¬ v ≤ 0x7F by omega, show v ≤ 0x7FF by omega, if_true, if_false]
  rw [ofNat_eq_of_toNat (b := a) (by omega), ofNat_eq_of_toNat (b := b) (by omega)]

theorem encode_three {a b c : UInt8} {v : Nat}
    (hv : v = ((a.toNat - 0xE0) * 64 + (b.toNat - 0x80)) * 64 + (c.toNat - 0x80))
    (ha : 0xE0 ≤ a.toNat ∧ a.toNat ≤ 0xEF) (hb : 0x80 ≤ b.toNat ∧ b.toNat ≤ 0xBF)
    (hc : 0x80 ≤ c.toNat ∧ c.toNat ≤ 0xBF) (hlow : 0x800 ≤ v) (hscalar : v < 0xD800 ∨ 0xDFFF < v) :
    String.utf8EncodeChar (Char.ofNat v) = [a, b, c] := by
  rw [String.utf8EncodeChar,
    toNat_ofNat (hscalar.imp id fun h => ⟨h, by omega⟩)]
  simp only [show ¬ v ≤ 0x7F by omega, show ¬ v ≤ 0x7FF by omega, show v ≤ 0xFFFF by omega,
    if_true, if_false]
  rw [ofNat_eq_of_toNat (b := a) (by omega), ofNat_eq_of_toNat (b := b) (by omega),
    ofNat_eq_of_toNat (b := c) (by omega)]

theorem encode_four {a b c d : UInt8} {v : Nat}
    (hv : v = (((a.toNat - 0xF0) * 64 + (b.toNat - 0x80)) * 64 + (c.toNat - 0x80)) * 64
      + (d.toNat - 0x80))
    (ha : 0xF0 ≤ a.toNat ∧ a.toNat ≤ 0xF4) (hb : 0x80 ≤ b.toNat ∧ b.toNat ≤ 0xBF)
    (hc : 0x80 ≤ c.toNat ∧ c.toNat ≤ 0xBF) (hd : 0x80 ≤ d.toNat ∧ d.toNat ≤ 0xBF)
    (hlow : 0x10000 ≤ v) (hhigh : v < 0x110000) : String.utf8EncodeChar (Char.ofNat v) = [a, b, c, d] := by
  rw [String.utf8EncodeChar, toNat_ofNat (.inr ⟨by omega, hhigh⟩)]
  simp only [show ¬ v ≤ 0x7F by omega, show ¬ v ≤ 0x7FF by omega, show ¬ v ≤ 0xFFFF by omega,
    if_false]
  rw [ofNat_eq_of_toNat (b := a) (by omega), ofNat_eq_of_toNat (b := b) (by omega),
    ofNat_eq_of_toNat (b := c) (by omega), ofNat_eq_of_toNat (b := d) (by omega)]

/-- The three kinds of lead bytes. The bounds of the byte that follows are narrower where shorter
encodings, surrogates and too great values have to be kept out. -/
theorem Lead.of?_cases {b : UInt8} {lead : Lead} (h : Lead.of? b = some lead) :
    ((0xC2 ≤ b.toNat ∧ b.toNat ≤ 0xDF) ∧ lead.payload = b.toNat - 0xC0 ∧ lead.following = 1 ∧
      lead.low = 0x80 ∧ lead.high = 0xBF) ∨
    ((0xE0 ≤ b.toNat ∧ b.toNat ≤ 0xEF) ∧ lead.payload = b.toNat - 0xE0 ∧ lead.following = 2 ∧
      (0x80 ≤ lead.low.toNat ∧ lead.high.toNat ≤ 0xBF) ∧
      (b.toNat = 0xE0 → 0xA0 ≤ lead.low.toNat) ∧ (b.toNat = 0xED → lead.high.toNat ≤ 0x9F)) ∨
    ((0xF0 ≤ b.toNat ∧ b.toNat ≤ 0xF4) ∧ lead.payload = b.toNat - 0xF0 ∧ lead.following = 3 ∧
      (0x80 ≤ lead.low.toNat ∧ lead.high.toNat ≤ 0xBF) ∧
      (b.toNat = 0xF0 → 0x90 ≤ lead.low.toNat) ∧ (b.toNat = 0xF4 → lead.high.toNat ≤ 0x8F)) := by
  unfold Lead.of? at h
  simp only [UInt8.lt_iff_toNat_lt, UInt8.le_iff_toNat_le, ← UInt8.toNat_inj,
    UInt8.reduceToNat] at h
  split at h
  · cases h
  split at h
  · obtain rfl := Option.some.inj h
    exact .inl ⟨by omega, rfl, rfl, rfl, rfl⟩
  split at h
  · next hb =>
    obtain rfl := Option.some.inj h
    exact .inr (.inl ⟨by omega, by simp [hb], rfl, by simp, by simp, by simp [hb]⟩)
  split at h
  · next hb =>
    obtain rfl := Option.some.inj h
    exact .inr (.inl ⟨by omega, by simp [hb], rfl, by simp, by simp [hb], by simp⟩)
  split at h
  · obtain rfl := Option.some.inj h
    exact .inr (.inl ⟨by omega, rfl, rfl, by simp, by omega, by omega⟩)
  split at h
  · next hb =>
    obtain rfl := Option.some.inj h
    exact .inr (.inr ⟨by omega, by simp [hb], rfl, by simp, by simp, by simp [hb]⟩)
  split at h
  · obtain rfl := Option.some.inj h
    exact .inr (.inr ⟨by omega, rfl, rfl, by simp, by omega, by omega⟩)
  split at h
  · next hb =>
    obtain rfl := Option.some.inj h
    exact .inr (.inr ⟨by omega, by simp [hb], rfl, by simp, by simp [hb], by simp⟩)
  · cases h

/-- A lead byte and as many bytes as it announces encode what they amount to. -/
theorem Lead.encode {b : UInt8} {lead : Lead} (h : Lead.of? b = some lead) {bytes : List UInt8}
    (hlen : bytes.length = lead.following) (hbytes : Continues lead.low lead.high bytes) :
    String.utf8EncodeChar (Char.ofNat (amount lead.payload bytes)) = b :: bytes := by
  rcases Lead.of?_cases h with ⟨hb, hpayload, hn, hlow, hhigh⟩ |
    ⟨hb, hpayload, hn, ⟨hlow, hhigh⟩, hleast, hgreatest⟩ |
    ⟨hb, hpayload, hn, ⟨hlow, hhigh⟩, hleast, hgreatest⟩
  · rw [hn] at hlen
    obtain ⟨c, rfl⟩ := List.length_eq_one_iff.mp hlen
    obtain ⟨hc, -⟩ := hbytes
    rw [hlow, hhigh] at hc
    exact encode_two (by simp [amount, hpayload]) hb hc
  · rw [hn] at hlen
    obtain ⟨c, d, rfl⟩ := List.length_eq_two.mp hlen
    obtain ⟨hc, htail⟩ := hbytes
    have hc : lead.low.toNat ≤ c.toNat ∧ c.toNat ≤ lead.high.toNat := hc
    have hd : 0x80 ≤ d.toNat ∧ d.toNat ≤ 0xBF := htail d (by simp)
    have hv : amount lead.payload [c, d]
        = ((b.toNat - 0xE0) * 64 + (c.toNat - 0x80)) * 64 + (d.toNat - 0x80) := by
      simp [amount, hpayload]
    exact encode_three hv hb (by omega) hd (by omega) (by omega)
  · rw [hn] at hlen
    obtain ⟨c, d, e, rfl⟩ := List.length_eq_three.mp hlen
    obtain ⟨hc, htail⟩ := hbytes
    have hc : lead.low.toNat ≤ c.toNat ∧ c.toNat ≤ lead.high.toNat := hc
    have hd : 0x80 ≤ d.toNat ∧ d.toNat ≤ 0xBF := htail d (by simp)
    have he : 0x80 ≤ e.toNat ∧ e.toNat ≤ 0xBF := htail e (by simp)
    have hv : amount lead.payload [c, d, e]
        = (((b.toNat - 0xF0) * 64 + (c.toNat - 0x80)) * 64 + (d.toNat - 0x80)) * 64
          + (e.toNat - 0x80) := by
      simp [amount, hpayload]
    exact encode_four hv hb (by omega) hd he (by omega) (by omega)

/-! ## Splitting loses nothing -/

theorem follow_bytes {n : Nat} {low high : UInt8} {value : Nat} {taken : List UInt8}
    (h : ∀ bytes : List UInt8, bytes.length = n → Continues low high bytes →
      String.utf8EncodeChar (Char.ofNat (amount value bytes)) = taken ++ bytes)
    (rest : List UInt8) :
    (follow n low high value taken rest).1.bytes ++ (follow n low high value taken rest).2
      = taken ++ rest := by
  -- `h` holds for the bytes taken so far, whatever valid bytes the rest begins with
  induction n generalizing low high value taken rest with
  | zero =>
    have hnil := h [] rfl trivial
    rw [List.append_nil] at hnil
    rw [follow, ← hnil]
    rfl
  | succ n ih =>
    cases rest with
    | nil => rw [follow, Piece.bytes]
    | cons b rest =>
      rw [follow]
      split
      · next hb =>
        rw [ih, List.append_assoc, List.singleton_append]
        intro bytes hlen hbytes
        rw [← amount_cons, List.append_assoc, List.singleton_append]
        exact h (b :: bytes) (by simp [hlen]) (continues_cons_iff.mpr ⟨hb, hbytes⟩)
      · rfl

/-- **A piece and the bytes after it are the bytes that were split.** -/
theorem next_bytes (b : UInt8) (rest : List UInt8) :
    (next b rest).1.bytes ++ (next b rest).2 = b :: rest := by
  unfold next
  split
  · next hb => exact congrArg (· ++ rest) (encode_one hb)
  · split
    · rfl
    · next lead hlead => exact follow_bytes (fun _ => Lead.encode hlead) rest

/-! ## ASCII in what bytes show -/

/-- The byte of an ASCII character. -/
def asciiByte (c : Char) : UInt8 := UInt8.ofNat c.toNat

theorem encodeChar_ascii {c : Char} (h : c.toNat < 0x80) :
    String.utf8EncodeChar c = [asciiByte c] := by
  have hle : c.val.toNat ≤ 0x7F := Nat.le_of_lt_succ h
  rw [String.utf8EncodeChar]
  exact if_pos hle

theorem toNat_asciiByte {c : Char} (h : c.toNat < 0x80) : (asciiByte c).toNat = c.toNat := by
  rw [asciiByte, UInt8.toNat_ofNat']
  omega

theorem next_ascii {c : Char} (h : c.toNat < 0x80) (rest : List UInt8) :
    next (asciiByte c) rest = (.scalar c, rest) := by
  have hb : asciiByte c < 0x80 := by
    rw [UInt8.lt_iff_toNat_lt, toNat_asciiByte h]
    exact h
  rw [next, if_pos hb, toNat_asciiByte h, Char.ofNat_toNat]

/-- An ASCII character is shown for its byte and for nothing else. -/
theorem decodeLossy_eq_cons_iff {c : Char} (hc : c.toNat < 0x80) {bytes : List UInt8}
    {s : List Char} :
    decodeLossy bytes = c :: s ↔ ∃ rest, bytes = asciiByte c :: rest ∧ decodeLossy rest = s := by
  constructor
  · intro h
    cases bytes with
    | nil =>
      rw [decodeLossy, pieces] at h
      cases h
    | cons b rest =>
      rw [decodeLossy, pieces, List.map_cons, List.cons.injEq] at h
      have hnext := next_bytes b rest
      cases hpiece : (next b rest).1 with
      | scalar d =>
        rw [hpiece] at h hnext
        -- the piece is an encoding, so its bytes are those of the character
        obtain rfl : d = c := h.1
        rw [show (Piece.scalar d).bytes = [asciiByte d] from encodeChar_ascii hc] at hnext
        exact ⟨_, hnext.symm, h.2⟩
      | invalid bad =>
        rw [hpiece] at h
        rw [← h.1] at hc
        exact absurd hc (show ¬ (Char.ofNat 0xFFFD).toNat < 0x80 by decide)
  · rintro ⟨rest, rfl, rfl⟩
    rw [decodeLossy, pieces, next_ascii hc]
    rfl

theorem decodeLossy_eq_nil_iff {bytes : List UInt8} : decodeLossy bytes = [] ↔ bytes = [] := by
  cases bytes with
  | nil => simp [decodeLossy, pieces]
  | cons b rest => simp [decodeLossy, pieces]

/-- An ASCII text is shown for its bytes and for nothing else. -/
theorem decodeLossy_eq_append_iff {text : List Char} (htext : ∀ c ∈ text, c.toNat < 0x80)
    {bytes : List UInt8} {s : List Char} :
    decodeLossy bytes = text ++ s ↔
      ∃ rest, bytes = text.map asciiByte ++ rest ∧ decodeLossy rest = s := by
  induction text generalizing bytes with
  | nil => simp
  | cons c text ih =>
    rw [List.forall_mem_cons] at htext
    rw [List.cons_append, decodeLossy_eq_cons_iff htext.1]
    constructor
    · rintro ⟨rest, rfl, hrest⟩
      obtain ⟨rest', rfl, hrest'⟩ := (ih htext.2).mp hrest
      exact ⟨rest', rfl, hrest'⟩
    · rintro ⟨rest, rfl, hrest⟩
      exact ⟨text.map asciiByte ++ rest, rfl, (ih htext.2).mpr ⟨rest, rfl, hrest⟩⟩

/-- No byte of the encoding of a character that is not ASCII is ASCII. -/
theorem le_of_mem_encodeChar {c : Char} (h : 0x80 ≤ c.toNat) {b : UInt8}
    (hb : b ∈ String.utf8EncodeChar c) : 0x80 ≤ b.toNat := by
  have hone : ¬ c.val.toNat ≤ 0x7F := Nat.not_le_of_lt h
  rw [String.utf8EncodeChar] at hb
  simp only [if_neg hone] at hb
  split at hb
  · simp only [List.mem_cons, List.not_mem_nil, or_false] at hb
    rcases hb with rfl | rfl <;> rw [UInt8.toNat_ofNat'] <;> omega
  split at hb
  · simp only [List.mem_cons, List.not_mem_nil, or_false] at hb
    rcases hb with rfl | rfl | rfl <;> rw [UInt8.toNat_ofNat'] <;> omega
  · simp only [List.mem_cons, List.not_mem_nil, or_false] at hb
    rcases hb with rfl | rfl | rfl | rfl <;> rw [UInt8.toNat_ofNat'] <;> omega

/-- The encoding of a character that is not ASCII begins with a byte that is not ASCII either. -/
theorem exists_cons_encodeChar {c : Char} (h : 0x80 ≤ c.toNat) :
    ∃ b bytes, String.utf8EncodeChar c = b :: bytes ∧ 0x80 ≤ b.toNat := by
  obtain ⟨b, bytes, hbytes⟩ := List.exists_cons_of_ne_nil (String.utf8EncodeChar_ne_nil (c := c))
  exact ⟨b, bytes, hbytes, le_of_mem_encodeChar h (by rw [hbytes]; exact List.mem_cons_self)⟩

/-! ## Encodings are read back -/

theorem encodeChar_injective : Function.Injective String.utf8EncodeChar := by
  intro c d h
  have hc := ByteArray.utf8DecodeChar?_utf8EncodeChar_append (b := .empty) (c := c)
  rw [h, ByteArray.utf8DecodeChar?_utf8EncodeChar_append] at hc
  exact (Option.some.inj hc).symm

/-- Bytes that a lead byte announces are read as one character. -/
theorem follow_of_continues {n : Nat} {low high : UInt8} {value : Nat} {taken bytes : List UInt8}
    (hlen : bytes.length = n) (hbytes : Continues low high bytes) (rest : List UInt8) :
    follow n low high value taken (bytes ++ rest)
      = (.scalar (Char.ofNat (amount value bytes)), rest) := by
  induction n generalizing low high value taken bytes with
  | zero =>
    obtain rfl := List.length_eq_zero_iff.mp hlen
    rw [List.nil_append, follow]
    rfl
  | succ n ih =>
    cases bytes with
    | nil => cases hlen
    | cons b bytes =>
      obtain ⟨hb, htail⟩ := continues_cons_iff.mp hbytes
      rw [List.cons_append, follow, if_pos hb, amount_cons]
      exact ih (Nat.succ.inj hlen) htail

/-- The lead bytes of two-byte encodings. Those of longer ones narrow the bounds of the byte that
follows for one value at either end. -/
theorem Lead.exists_two {b : UInt8} (hb : 0xC2 ≤ b.toNat ∧ b.toNat ≤ 0xDF) :
    ∃ lead, Lead.of? b = some lead ∧ lead.following = 1 ∧
      lead.low.toNat = 0x80 ∧ lead.high.toNat = 0xBF := by
  unfold Lead.of?
  simp only [UInt8.lt_iff_toNat_lt, UInt8.le_iff_toNat_le, ← UInt8.toNat_inj, UInt8.reduceToNat]
  rw [if_neg (by omega), if_pos hb.2]
  exact ⟨_, rfl, rfl, rfl, rfl⟩

theorem Lead.exists_three {b : UInt8} (hb : 0xE0 ≤ b.toNat ∧ b.toNat ≤ 0xEF) :
    ∃ lead, Lead.of? b = some lead ∧ lead.following = 2 ∧
      (lead.low.toNat = 0x80 ∨ b.toNat = 0xE0 ∧ lead.low.toNat = 0xA0) ∧
      (lead.high.toNat = 0xBF ∨ b.toNat = 0xED ∧ lead.high.toNat = 0x9F) := by
  unfold Lead.of?
  simp only [UInt8.lt_iff_toNat_lt, UInt8.le_iff_toNat_le, ← UInt8.toNat_inj, UInt8.reduceToNat]
  rw [if_neg (by omega), if_neg (by omega)]
  split
  · next h => exact ⟨_, rfl, rfl, .inr ⟨h, rfl⟩, .inl rfl⟩
  split
  · next h => exact ⟨_, rfl, rfl, .inl rfl, .inr ⟨h, rfl⟩⟩
  · rw [if_pos hb.2]
    exact ⟨_, rfl, rfl, .inl rfl, .inl rfl⟩

theorem Lead.exists_four {b : UInt8} (hb : 0xF0 ≤ b.toNat ∧ b.toNat ≤ 0xF4) :
    ∃ lead, Lead.of? b = some lead ∧ lead.following = 3 ∧
      (lead.low.toNat = 0x80 ∨ b.toNat = 0xF0 ∧ lead.low.toNat = 0x90) ∧
      (lead.high.toNat = 0xBF ∨ b.toNat = 0xF4 ∧ lead.high.toNat = 0x8F) := by
  unfold Lead.of?
  simp only [UInt8.lt_iff_toNat_lt, UInt8.le_iff_toNat_le, ← UInt8.toNat_inj, UInt8.reduceToNat]
  rw [if_neg (by omega), if_neg (by omega), if_neg (by omega), if_neg (by omega),
    if_neg (by omega)]
  split
  · next h => exact ⟨_, rfl, rfl, .inr ⟨h, rfl⟩, .inl rfl⟩
  split
  · exact ⟨_, rfl, rfl, .inl rfl, .inl rfl⟩
  · have h : b.toNat = 0xF4 := by omega
    rw [if_pos h]
    exact ⟨_, rfl, rfl, .inl rfl, .inr ⟨h, rfl⟩⟩

/-- A character beyond ASCII is written as a lead byte and as many bytes as it announces. -/
theorem exists_lead_encodeChar {c : Char} (h : 0x80 ≤ c.toNat) :
    ∃ b bytes lead, String.utf8EncodeChar c = b :: bytes ∧ Lead.of? b = some lead ∧
      bytes.length = lead.following ∧ Continues lead.low lead.high bytes := by
  have hscalar : c.val.toNat < 0xD800 ∨ 0xDFFF < c.val.toNat ∧ c.val.toNat < 0x110000 := c.valid
  have hone : ¬ c.val.toNat ≤ 0x7F := Nat.not_le_of_lt h
  rw [String.utf8EncodeChar]
  simp only [if_neg hone]
  split
  · obtain ⟨lead, hlead, hn, hlow, hhigh⟩ :=
      Lead.exists_two (b := UInt8.ofNat (c.val.toNat / 64 % 32 + 192))
        (by rw [UInt8.toNat_ofNat']; omega)
    refine ⟨_, _, lead, rfl, hlead, hn.symm, ?_, by simp⟩
    rw [UInt8.le_iff_toNat_le, UInt8.le_iff_toNat_le, UInt8.toNat_ofNat']
    omega
  split
  · obtain ⟨lead, hlead, hn, hlow, hhigh⟩ :=
      Lead.exists_three (b := UInt8.ofNat (c.val.toNat / 4096 % 16 + 224))
        (by rw [UInt8.toNat_ofNat']; omega)
    rw [UInt8.toNat_ofNat'] at hlow hhigh
    refine ⟨_, _, lead, rfl, hlead, hn.symm, ?_, ?_⟩
    · rw [UInt8.le_iff_toNat_le, UInt8.le_iff_toNat_le, UInt8.toNat_ofNat']
      omega
    · simp only [List.mem_singleton, forall_eq, UInt8.le_iff_toNat_le, UInt8.toNat_ofNat',
        UInt8.reduceToNat]
      omega
  · obtain ⟨lead, hlead, hn, hlow, hhigh⟩ :=
      Lead.exists_four (b := UInt8.ofNat (c.val.toNat / 262144 % 8 + 240))
        (by rw [UInt8.toNat_ofNat']; omega)
    rw [UInt8.toNat_ofNat'] at hlow hhigh
    refine ⟨_, _, lead, rfl, hlead, hn.symm, ?_, ?_⟩
    · rw [UInt8.le_iff_toNat_le, UInt8.le_iff_toNat_le, UInt8.toNat_ofNat']
      omega
    · simp only [List.forall_mem_cons, UInt8.le_iff_toNat_le, UInt8.toNat_ofNat',
        UInt8.reduceToNat]
      exact ⟨by omega, by omega, by simp⟩

/-- **A character is read back from its encoding**, whatever follows. -/
theorem pieces_encodeChar_append (c : Char) (rest : List UInt8) :
    pieces (String.utf8EncodeChar c ++ rest) = .scalar c :: pieces rest := by
  by_cases hc : c.toNat < 0x80
  · rw [encodeChar_ascii hc, List.singleton_append, pieces, next_ascii hc]
  · obtain ⟨b, bytes, lead, hencode, hlead, hlen, hbytes⟩ :=
      exists_lead_encodeChar (Nat.le_of_not_lt hc)
    have hb : ¬ b < 0x80 := by
      intro hb
      have hlt : b.toNat < 0x80 := hb
      have := Lead.of?_cases hlead
      omega
    have hc : Char.ofNat (amount lead.payload bytes) = c :=
      encodeChar_injective ((Lead.encode hlead hlen hbytes).trans hencode.symm)
    rw [hencode, List.cons_append, pieces, next, if_neg hb, hlead]
    simp only [follow_of_continues hlen hbytes, hc]

/-- An encoding splits into the characters of its text, whatever follows. -/
theorem pieces_encode_append (text : List Char) (rest : List UInt8) :
    pieces (encode text ++ rest) = text.map .scalar ++ pieces rest := by
  induction text with
  | nil => rfl
  | cons c text ih =>
    rw [encode, List.flatMap_cons, List.append_assoc, pieces_encodeChar_append, List.map_cons,
      List.cons_append]
    exact congrArg _ ih

theorem pieces_encode (text : List Char) : pieces (encode text) = text.map .scalar := by
  have h := pieces_encode_append text []
  rwa [List.append_nil, pieces, List.append_nil] at h

/-- The pieces of a byte string make it up. -/
theorem flatMap_bytes_pieces (bytes : List UInt8) :
    (pieces bytes).flatMap Piece.bytes = bytes := by
  induction bytes using pieces.induct with
  | case1 => rw [pieces, List.flatMap_nil]
  | case2 b rest ih => rw [pieces, List.flatMap_cons, ih, next_bytes]

theorem mapM_scalar?_eq_some_iff {ps : List Piece} {text : List Char} :
    ps.mapM Piece.scalar? = some text ↔ ps = text.map .scalar := by
  induction ps generalizing text with
  | nil => simp [List.mapM_nil, eq_comm]
  | cons p ps ih =>
    rw [List.mapM_cons]
    cases p with
    | invalid bytes => cases text <;> simp [Piece.scalar?]
    | scalar c =>
      cases text with
      | nil => simp [Piece.scalar?, Option.bind_eq_some_iff]
      | cons d text => simp [Piece.scalar?, Option.bind_eq_some_iff, ih, and_comm]

/-- **Strict reading accepts exactly the encodings of texts.** -/
theorem decode?_eq_some_iff {bytes : List UInt8} {text : List Char} :
    decode? bytes = some text ↔ encode text = bytes := by
  rw [decode?, mapM_scalar?_eq_some_iff]
  constructor
  · intro h
    rw [← flatMap_bytes_pieces bytes, h, encode, List.flatMap_map]
    rfl
  · rintro rfl
    exact pieces_encode text

/-- Strict reading refuses what is not the encoding of a text. -/
theorem decode?_eq_none_iff {bytes : List UInt8} :
    decode? bytes = none ↔ ∀ text, bytes ≠ encode text := by
  rw [Option.eq_none_iff_forall_ne_some]
  exact forall_congr' fun text => not_congr (decode?_eq_some_iff.trans eq_comm)

/-- Characters are shown as they are. -/
theorem map_shown_scalar (text : List Char) : (text.map Piece.scalar).map Piece.shown = text := by
  rw [List.map_map]
  exact List.map_id text

/-- What strict reading accepts is shown as it is. -/
theorem decodeLossy_encode (text : List Char) : decodeLossy (encode text) = text := by
  rw [decodeLossy, pieces_encode, map_shown_scalar]

theorem encode_append (s t : List Char) : encode (s ++ t) = encode s ++ encode t :=
  List.flatMap_append

/-- The byte of an ASCII character is written for that character only. -/
theorem asciiByte_mem_encode_iff {c : Char} (hc : c.toNat < 0x80) {text : List Char} :
    asciiByte c ∈ encode text ↔ c ∈ text := by
  rw [encode, List.mem_flatMap]
  constructor
  · rintro ⟨d, hd, hbyte⟩
    by_cases hascii : d.toNat < 0x80
    · rw [encodeChar_ascii hascii, List.mem_singleton, ← UInt8.toNat_inj, toNat_asciiByte hc,
        toNat_asciiByte hascii] at hbyte
      rwa [Char.toNat_inj.mp hbyte]
    · have hle := le_of_mem_encodeChar (Nat.le_of_not_lt hascii) hbyte
      rw [toNat_asciiByte hc] at hle
      exact absurd hc (Nat.not_lt_of_le hle)
  · intro h
    exact ⟨c, h, by rw [encodeChar_ascii hc]; exact List.mem_singleton_self _⟩

/-- Only the NUL is written with a zero byte. -/
theorem zero_mem_encode_iff {text : List Char} : 0 ∈ encode text ↔ '\x00' ∈ text :=
  asciiByte_mem_encode_iff (c := '\x00') (by decide)

end UserDirectory.Utf8
