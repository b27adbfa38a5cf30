import UserDirectory.Proofs.Text.Utf8

/-!
# Maximal subparts

Where no character is encoded, lenient reading replaces as many bytes by one character as begin an
encoding together, but at least one byte. Such bytes are a *maximal subpart*. What that is, and into
which pieces a byte string splits, is told here by the encodings of characters alone (`Begins`,
`IsSubpart`, `Splits`), and not by lead bytes and bounds.

* `begins_cons_iff`: the table of lead bytes tells which bytes begin an encoding
* `splits_iff`: a byte string splits in one way, into the pieces that are read
* `decodeLossy_between`: bytes between two texts are shown as they are by themselves

The last does not hold for other bytes than those of texts. A subpart at the end may grow when bytes
are added, but it does not with the first byte of an encoding, which is no continuation byte
(`IsSubpart.append_encode`).
-/

namespace UserDirectory.Utf8

/-! ## Beginnings of encodings -/

/-- The bytes begin the encoding of a character, or are all of it. -/
def Begins (bytes : List UInt8) : Prop := ∃ c, bytes <+: String.utf8EncodeChar c

theorem Begins.of_prefix {bytes bytes' : List UInt8} (h : Begins bytes') (hpre : bytes <+: bytes') :
    Begins bytes := by
  obtain ⟨c, hc⟩ := h
  exact ⟨c, hpre.trans hc⟩

theorem Continues.of_prefix {low high : UInt8} {bytes bytes' : List UInt8}
    (h : Continues low high bytes') (hpre : bytes <+: bytes') : Continues low high bytes := by
  cases bytes with
  | nil => trivial
  | cons b bytes =>
    obtain ⟨more, rfl⟩ := hpre
    exact ⟨h.1, fun c hc => h.2 c (List.mem_append_left more hc)⟩

/-- The bounds of the second byte are those of continuation bytes, or narrower. -/
theorem Lead.bounds {b : UInt8} {lead : Lead} (h : Lead.of? b = some lead) :
    0x80 ≤ lead.low ∧ lead.low ≤ lead.high ∧ lead.high ≤ 0xBF := by
  unfold Lead.of? at h
  split_ifs at h <;> obtain rfl := Option.some.inj h <;> simp [UInt8.le_iff_toNat_le]

theorem Lead.continuation_of_continues {b : UInt8} {lead : Lead} (h : Lead.of? b = some lead)
    {bytes : List UInt8} (hbytes : Continues lead.low lead.high bytes) {d : UInt8}
    (hd : d ∈ bytes) : 0x80 ≤ d ∧ d ≤ 0xBF := by
  obtain ⟨hlow, -, hhigh⟩ := Lead.bounds h
  cases bytes with
  | nil => cases hd
  | cons c bytes =>
    rcases List.mem_cons.mp hd with rfl | hd
    · exact ⟨UInt8.le_trans hlow hbytes.1.1, UInt8.le_trans hbytes.1.2 hhigh⟩
    · exact hbytes.2 d hd

/-- Bytes within their bounds can be followed by others up to any number. -/
theorem Continues.exists_append {low high : UInt8} (hlow : low ≤ high) {bytes : List UInt8}
    (h : Continues low high bytes) {n : Nat} (hn : bytes.length ≤ n) :
    ∃ more, (bytes ++ more).length = n ∧ Continues low high (bytes ++ more) := by
  cases bytes with
  | nil =>
    cases n with
    | zero => exact ⟨[], rfl, h⟩
    | succ n =>
      refine ⟨low :: List.replicate n 0x80, by simp, ⟨UInt8.le_refl low, hlow⟩, ?_⟩
      intro c hc
      rw [List.eq_of_mem_replicate hc]
      decide
  | cons b bytes =>
    refine ⟨List.replicate (n - (b :: bytes).length) 0x80, ?_, h.1, ?_⟩
    · rw [List.length_append, List.length_replicate]
      omega
    · intro c hc
      rcases List.mem_append.mp hc with hc | hc
      · exact h.2 c hc
      · rw [List.eq_of_mem_replicate hc]
        decide

/-- **A lead byte begins an encoding with as many bytes as it announces, or fewer**, if they are
within their bounds; no other byte beyond ASCII begins one. -/
theorem begins_cons_iff {b : UInt8} (hb : 0x80 ≤ b.toNat) {bytes : List UInt8} :
    Begins (b :: bytes) ↔ ∃ lead, Lead.of? b = some lead ∧ bytes.length ≤ lead.following ∧
      Continues lead.low lead.high bytes := by
  constructor
  · rintro ⟨c, hc⟩
    by_cases hascii : c.toNat < 0x80
    · rw [encodeChar_ascii hascii] at hc
      obtain rfl := (List.cons_prefix_cons.mp hc).1
      rw [toNat_asciiByte hascii] at hb
      omega
    · obtain ⟨b', bytes', lead, hencode, hlead, hlen, hbytes⟩ :=
        exists_lead_encodeChar (Nat.le_of_not_lt hascii)
      rw [hencode] at hc
      obtain ⟨rfl, hpre⟩ := List.cons_prefix_cons.mp hc
      exact ⟨lead, hlead, hlen ▸ hpre.length_le, hbytes.of_prefix hpre⟩
  · rintro ⟨lead, hlead, hlen, hbytes⟩
    obtain ⟨more, hmore, hall⟩ := hbytes.exists_append (Lead.bounds hlead).2.1 hlen
    exact ⟨Char.ofNat (amount lead.payload (bytes ++ more)), more,
      (Lead.encode hlead hmore hall).symm⟩

/-- All bytes of an encoding but the first are continuation bytes. -/
theorem continuation_of_begins {b : UInt8} {bytes : List UInt8} (h : Begins (b :: bytes))
    {d : UInt8} (hd : d ∈ bytes) : 0x80 ≤ d ∧ d ≤ 0xBF := by
  by_cases hb : 0x80 ≤ b.toNat
  · obtain ⟨lead, hlead, -, hbytes⟩ := (begins_cons_iff hb).mp h
    exact Lead.continuation_of_continues hlead hbytes hd
  · obtain ⟨c, hc⟩ := h
    have hascii : c.toNat < 0x80 := by
      by_contra hc'
      exact hb (le_of_mem_encodeChar (Nat.le_of_not_lt hc') (hc.subset List.mem_cons_self))
    rw [encodeChar_ascii hascii] at hc
    obtain rfl := List.prefix_nil.mp (List.cons_prefix_cons.mp hc).2
    cases hd

/-- The first byte of an encoding is no continuation byte. -/
theorem not_continuation_of_head_encodeChar {c : Char} {d : UInt8}
    (h : d ∈ (String.utf8EncodeChar c).head?) : ¬ (0x80 ≤ d ∧ d ≤ 0xBF) := by
  simp only [UInt8.le_iff_toNat_le, UInt8.reduceToNat]
  by_cases hascii : c.toNat < 0x80
  · rw [encodeChar_ascii hascii] at h
    obtain rfl := Option.some.inj h
    rw [toNat_asciiByte hascii]
    omega
  · obtain ⟨b, bytes, lead, hencode, hlead, -⟩ := exists_lead_encodeChar (Nat.le_of_not_lt hascii)
    rw [hencode] at h
    obtain rfl := Option.some.inj h
    have := Lead.of?_cases hlead
    omega

/-- No encoding goes on with the first byte of a text. -/
theorem not_begins_append_head {bytes : List UInt8} (hne : bytes ≠ []) {text : List Char}
    {d : UInt8} (hd : d ∈ (encode text).head?) : ¬ Begins (bytes ++ [d]) := by
  intro hbegins
  obtain ⟨b, more, rfl⟩ := List.exists_cons_of_ne_nil hne
  have hcontinuation := continuation_of_begins hbegins
    (List.mem_append_right more (List.mem_singleton_self d))
  cases text with
  | nil => cases hd
  | cons c text =>
    rw [encode, List.flatMap_cons, List.head?_append_of_ne_nil _ String.utf8EncodeChar_ne_nil] at hd
    exact not_continuation_of_head_encodeChar hd hcontinuation

/-! ## Subparts -/

/-- The bytes in front of `rest` are a maximal subpart: no character is encoded there, they begin
an encoding or are a single byte, and with more of the bytes no encoding begins. -/
structure IsSubpart (bytes rest : List UInt8) : Prop where
  unconvertible : ∀ c, ¬ String.utf8EncodeChar c <+: bytes ++ rest
  ne_nil : bytes ≠ []
  begins : bytes.length = 1 ∨ Begins bytes
  maximal : ∀ longer, longer <+: bytes ++ rest → Begins longer → longer.length ≤ bytes.length

/-- That no more bytes begin an encoding is decided by the next one. -/
theorem maximal_iff {bytes rest : List UInt8} :
    (∀ longer, longer <+: bytes ++ rest → Begins longer → longer.length ≤ bytes.length) ↔
      ∀ d ∈ rest.head?, ¬ Begins (bytes ++ [d]) := by
  constructor
  · intro h d hd hbegins
    obtain ⟨rest', rfl⟩ := List.head?_eq_some_iff.mp hd
    have hlen := h (bytes ++ [d]) ⟨rest', by simp⟩ hbegins
    rw [List.length_append, List.length_singleton] at hlen
    omega
  · intro h longer hpre hbegins
    by_contra hlen
    obtain ⟨more, rfl⟩ : bytes <+: longer :=
      List.prefix_of_prefix_length_le (List.prefix_append bytes rest) hpre (by omega)
    cases more with
    | nil => simp at hlen
    | cons d more =>
      obtain ⟨rest', hrest⟩ := hpre
      rw [List.append_assoc, List.append_cancel_left_eq] at hrest
      refine h d (by rw [← hrest]; rfl) (hbegins.of_prefix ⟨more, ?_⟩)
      simp

namespace IsSubpart

variable {bytes bytes' rest rest' : List UInt8}

theorem length_pos (h : IsSubpart bytes rest) : 1 ≤ bytes.length :=
  List.length_pos_iff.mpr h.ne_nil

/-- A subpart lacks at least one of the at most four bytes of an encoding. -/
theorem length_le (h : IsSubpart bytes rest) : bytes.length ≤ 3 := by
  rcases h.begins with hone | ⟨c, hc⟩
  · omega
  · have hne : bytes.length ≠ (String.utf8EncodeChar c).length := by
      intro hlen
      refine h.unconvertible c ?_
      rw [← hc.eq_of_length hlen]
      exact List.prefix_append bytes rest
    have hle := hc.length_le
    have hfour := c.utf8Size_le_four
    rw [String.length_utf8EncodeChar] at hne hle
    omega

theorem length_le_of_eq (h : IsSubpart bytes rest) (h' : IsSubpart bytes' rest')
    (heq : bytes ++ rest = bytes' ++ rest') : bytes'.length ≤ bytes.length := by
  rcases h'.begins with hone | hbegins
  · rw [hone]
    exact h.length_pos
  · exact h.maximal bytes' (heq ▸ List.prefix_append bytes' rest') hbegins

/-- There is one subpart at a place. -/
theorem unique (h : IsSubpart bytes rest) (h' : IsSubpart bytes' rest')
    (heq : bytes ++ rest = bytes' ++ rest') : bytes = bytes' ∧ rest = rest' :=
  List.append_inj heq
    (Nat.le_antisymm (h'.length_le_of_eq h heq.symm) (h.length_le_of_eq h' heq))

/-- A subpart stays one when a text follows. -/
theorem append_encode (h : IsSubpart bytes rest) (text : List Char) :
    IsSubpart bytes (rest ++ encode text) := by
  have hmaximal : ∀ longer, longer <+: bytes ++ (rest ++ encode text) → Begins longer →
      longer.length ≤ bytes.length := by
    rw [maximal_iff]
    intro d hd
    cases rest with
    | nil => exact not_begins_append_head h.ne_nil hd
    | cons e rest => exact maximal_iff.mp h.maximal d hd
  refine ⟨?_, h.ne_nil, h.begins, hmaximal⟩
  intro c hc
  -- an encoding here is no longer than the subpart, so it would stand there without the text
  have hlen := hmaximal _ hc ⟨c, List.prefix_rfl⟩
  have hpre : String.utf8EncodeChar c <+: bytes :=
    List.prefix_of_prefix_length_le hc (List.prefix_append bytes _) hlen
  exact h.unconvertible c (hpre.trans (List.prefix_append bytes rest))

end IsSubpart

/-- What is taken of an encoding that breaks off: bytes within their bounds, fewer than are needed,
before one that is not. -/
theorem follow_eq_invalid {n : Nat} {low high : UInt8} {value : Nat}
    {taken bytes bad left : List UInt8}
    (h : follow n low high value taken bytes = (.invalid bad, left)) :
    ∃ more, bad = taken ++ more ∧ bytes = more ++ left ∧ more.length < n ∧
      Continues low high more ∧ ∀ d ∈ left.head?, ¬ Continues low high (more ++ [d]) := by
  induction n generalizing low high value taken bytes with
  | zero => cases h
  | succ n ih =>
    cases bytes with
    | nil =>
      cases h
      exact ⟨[], by simp, rfl, Nat.succ_pos n, trivial, by simp⟩
    | cons b bytes =>
      rw [follow] at h
      split at h
      · next hb =>
        obtain ⟨more, rfl, rfl, hlen, hmore, hstop⟩ := ih h
        refine ⟨b :: more, by simp, rfl, Nat.succ_lt_succ hlen,
          continues_cons_iff.mpr ⟨hb, hmore⟩, ?_⟩
        intro d hd hcontinues
        exact hstop d hd (continues_cons_iff.mp hcontinues).2
      · next hb =>
        cases h
        refine ⟨[], by simp, rfl, Nat.succ_pos n, trivial, ?_⟩
        intro d hd hcontinues
        obtain rfl := Option.some.inj hd
        exact hb hcontinues.1

theorem bytes_of_next {b : UInt8} {rest left : List UInt8} {p : Piece}
    (h : next b rest = (p, left)) : p.bytes ++ left = b :: rest := by
  have hbytes := next_bytes b rest
  rwa [h] at hbytes

/-- Where the piece encodes no character, none is encoded. -/
theorem not_prefix_of_next {b : UInt8} {rest bad left : List UInt8}
    (h : next b rest = (.invalid bad, left)) (c : Char) :
    ¬ String.utf8EncodeChar c <+: b :: rest := by
  rintro ⟨more, hmore⟩
  have hpieces : pieces (b :: rest) = .invalid bad :: pieces left := by rw [pieces, h]
  rw [← hmore, pieces_encodeChar_append] at hpieces
  cases hpieces

/-- **A piece that encodes no character is a maximal subpart.** -/
theorem isSubpart_of_next {b : UInt8} {rest bad left : List UInt8}
    (h : next b rest = (.invalid bad, left)) : IsSubpart bad left := by
  have hunconvertible : ∀ c, ¬ String.utf8EncodeChar c <+: bad ++ left := by
    rw [show bad ++ left = b :: rest from bytes_of_next h]
    exact not_prefix_of_next h
  unfold next at h
  split at h
  · cases h
  · next hb =>
    have hb : 0x80 ≤ b.toNat := Nat.le_of_not_lt hb
    split at h
    · next hlead =>
      cases h
      refine ⟨hunconvertible, by simp, .inl rfl, maximal_iff.mpr fun d _ hbegins => ?_⟩
      obtain ⟨lead, hlead', -⟩ := (begins_cons_iff hb).mp hbegins
      rw [hlead] at hlead'
      cases hlead'
    · next lead hlead =>
      obtain ⟨more, rfl, rfl, hlen, hmore, hstop⟩ := follow_eq_invalid h
      have hbegins : Begins (b :: more) :=
        (begins_cons_iff hb).mpr ⟨lead, hlead, Nat.le_of_lt hlen, hmore⟩
      refine ⟨hunconvertible, by simp, .inr hbegins, maximal_iff.mpr fun d hd hlonger => ?_⟩
      obtain ⟨lead', hlead', -, hcontinues⟩ := (begins_cons_iff hb).mp hlonger
      obtain rfl := Option.some.inj (hlead.symm.trans hlead')
      exact hstop d hd hcontinues

/-! ## Splitting -/

/-- A byte string splits into pieces, each an encoding or a maximal subpart. -/
inductive Splits : List UInt8 → List Piece → Prop where
  | nil : Splits [] []
  | scalar (c : Char) {rest : List UInt8} {ps : List Piece} : Splits rest ps →
      Splits (String.utf8EncodeChar c ++ rest) (.scalar c :: ps)
  | invalid {bytes rest : List UInt8} {ps : List Piece} : IsSubpart bytes rest → Splits rest ps →
      Splits (bytes ++ rest) (.invalid bytes :: ps)

theorem pieces_of_isSubpart {bytes rest : List UInt8} (h : IsSubpart bytes rest) :
    pieces (bytes ++ rest) = .invalid bytes :: pieces rest := by
  obtain ⟨b, more, rfl⟩ := List.exists_cons_of_ne_nil h.ne_nil
  rw [List.cons_append, pieces]
  cases hnext : next b (more ++ rest) with
  | mk p left =>
    have hwhole := bytes_of_next hnext
    cases p with
    | scalar c => exact absurd ⟨left, hwhole⟩ (h.unconvertible c)
    | invalid bad =>
      obtain ⟨rfl, rfl⟩ := (isSubpart_of_next hnext).unique h hwhole
      rfl

theorem splits_pieces (bytes : List UInt8) : Splits bytes (pieces bytes) := by
  induction bytes using pieces.induct with
  | case1 =>
    rw [pieces]
    exact .nil
  | case2 b rest ih =>
    rw [pieces]
    cases hnext : next b rest with
    | mk p left =>
      rw [hnext] at ih
      rw [← bytes_of_next hnext]
      cases p with
      | scalar c => exact .scalar c ih
      | invalid bad => exact .invalid (isSubpart_of_next hnext) ih

/-- **A byte string splits in one way**, into the pieces that are read. -/
theorem splits_iff {bytes : List UInt8} {ps : List Piece} : Splits bytes ps ↔ pieces bytes = ps := by
  constructor
  · intro h
    induction h with
    | nil => rw [pieces]
    | scalar c _ ih => rw [pieces_encodeChar_append, ih]
    | invalid hsub _ ih => rw [pieces_of_isSubpart hsub, ih]
  · rintro rfl
    exact splits_pieces bytes

theorem Splits.length_of_invalid {bytes : List UInt8} {ps : List Piece} (h : Splits bytes ps)
    {bad : List UInt8} (hbad : .invalid bad ∈ ps) : 1 ≤ bad.length ∧ bad.length ≤ 3 := by
  induction h with
  | nil => cases hbad
  | scalar c _ ih =>
    rcases List.mem_cons.mp hbad with hbad | hbad
    · cases hbad
    · exact ih hbad
  | invalid hsub _ ih =>
    rcases List.mem_cons.mp hbad with hbad | hbad
    · cases hbad
      exact ⟨hsub.length_pos, hsub.length_le⟩
    · exact ih hbad

/-- A text splits off at the end. -/
theorem Splits.append_encode {bytes : List UInt8} {ps : List Piece} (h : Splits bytes ps)
    (text : List Char) : Splits (bytes ++ encode text) (ps ++ text.map .scalar) := by
  induction h with
  | nil => exact splits_iff.mpr (pieces_encode text)
  | scalar c _ ih =>
    rw [List.append_assoc]
    exact .scalar c ih
  | invalid hsub _ ih =>
    rw [List.append_assoc]
    exact .invalid (hsub.append_encode text) ih

/-! ## What is shown -/

/-- **Bytes between texts are shown as they are by themselves.** -/
theorem decodeLossy_between (before : List Char) (bytes : List UInt8) (after : List Char) :
    decodeLossy (encode before ++ bytes ++ encode after)
      = before ++ decodeLossy bytes ++ after := by
  have hpieces : pieces (encode before ++ bytes ++ encode after)
      = before.map .scalar ++ pieces bytes ++ after.map .scalar := by
    rw [List.append_assoc, pieces_encode_append, List.append_assoc,
      splits_iff.mp ((splits_pieces bytes).append_encode after)]
  rw [decodeLossy, hpieces, List.map_append, List.map_append, map_shown_scalar, map_shown_scalar,
    decodeLossy]

/-- What is not text is shown with a replacement character. -/
theorem replacement_mem_decodeLossy {bytes : List UInt8} (h : ∀ text, bytes ≠ encode text) :
    Char.ofNat 0xFFFD ∈ decodeLossy bytes := by
  obtain ⟨bad, hbad⟩ : ∃ bad, .invalid bad ∈ pieces bytes := by
    by_contra hnone
    have hscalar : pieces bytes = (decodeLossy bytes).map .scalar := by
      rw [decodeLossy, List.map_map]
      refine (List.map_id _).symm.trans (List.map_congr_left fun p hp => ?_)
      cases p with
      | scalar c => rfl
      | invalid bad => exact absurd ⟨bad, hp⟩ hnone
    refine h (decodeLossy bytes) (decode?_eq_some_iff.mp ?_).symm
    rw [decode?, mapM_scalar?_eq_some_iff]
    exact hscalar
  exact List.mem_map.mpr ⟨_, hbad, rfl⟩

end UserDirectory.Utf8
