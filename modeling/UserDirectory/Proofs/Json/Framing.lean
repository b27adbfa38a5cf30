import UserDirectory.Proofs.Json.Value

/-!
# Where a text ends

A record says itself where it ends, so that a reader can tell a text that breaks off from one that
is wrong, and either from one that goes on after the record.

## Texts that break off

`Cut p t` says that `p` is `t` without its end, and `Awaits read t` that of every cut of `t` the
reader says that the text ended. Every token but an integer is awaited to its last character. An
integer has no closing mark: what stands of it is an integer of its own, which is read to the end
of the text, and it is the closing brace that is missed then (`AwaitsOrEnds`).

* `awaits_readString`: literals, with cuts inside escapes and between the halves of a pair
* `awaitsOrEnds_readInt32`: integers
* `Shape.Lawful.awaits_readMembers`: the members of an object, by induction on them
* `Shape.Lawful.awaits_objectChars`: whole objects, as they are written

Members of other names are left out: a number that is passed over and breaks off is malformed.

## Texts that go on

After a record blanks change nothing (`Shape.Lawful.read_append_blanks`), and everything else is
malformed (`Shape.Lawful.read_append_of_not_blanks`).
-/

namespace UserDirectory

/-! ## Sizes of hexadecimal digits -/

theorem Digits.utf8Size_of_hexValue? {c : Char} {n : Nat} (h : hexValue? c = some n) :
    c.utf8Size = 1 := by
  have hle : c ≤ 'f' := by
    unfold hexValue? at h
    split at h
    · next hc => exact Nat.le_trans hc.2 (by decide)
    · split at h
      · next hc => exact hc.2
      · split at h
        · next hc => exact Nat.le_trans hc.2 (by decide)
        · simp at h
  have hascii : c.val ≤ 0x7F := UInt32.le_trans hle (by decide)
  exact if_pos hascii

/-- A number is made of digits. -/
theorem Digits.exists_hexValue?_of_hexNumber? {ds : List Char} {n : Nat}
    (h : hexNumber? ds = some n) : ∀ c ∈ ds, ∃ v, hexValue? c = some v := by
  unfold hexNumber? at h
  generalize 0 = m at h
  induction ds generalizing m with
  | nil => simp
  | cons d ds ih =>
    rw [List.foldlM_cons, Option.bind_eq_bind, Option.bind_eq_some_iff] at h
    obtain ⟨k, hk, hrest⟩ := h
    obtain ⟨v, hv, -⟩ := Option.map_eq_some_iff.mp hk
    rw [List.forall_mem_cons]
    exact ⟨⟨v, hv⟩, ih k hrest⟩

theorem Utf8.size_eq_length {s : List Char} (h : ∀ c ∈ s, c.utf8Size = 1) :
    Utf8.size s = s.length := by
  induction s with
  | nil => rfl
  | cons c s ih =>
    rw [List.forall_mem_cons] at h
    rw [Utf8.size, h.1, ih h.2, List.length_cons, Nat.add_comm]

namespace Json

theorem isBlank_iff {c : Char} : isBlank c = true ↔ c ∈ [' ', '\t', '\n', '\r'] := by
  simp [isBlank, or_assoc]

/-! ## Cuts -/

/-- The text `p` is `t` without its end. -/
def Cut (p t : List Char) : Prop := ∃ x, x ≠ [] ∧ t = p ++ x

theorem not_cut_nil {p : List Char} : ¬ Cut p [] := by
  rintro ⟨x, hx, h⟩
  exact hx (List.append_eq_nil_iff.mp h.symm).2

theorem cut_cons_iff {p t : List Char} {c : Char} :
    Cut p (c :: t) ↔ p = [] ∨ ∃ q, p = c :: q ∧ Cut q t := by
  constructor
  · rintro ⟨x, hx, h⟩
    rcases List.append_eq_cons_iff.mp h.symm with ⟨rfl, -⟩ | ⟨q, rfl, rfl⟩
    · exact .inl rfl
    · exact .inr ⟨q, rfl, x, hx, rfl⟩
  · rintro (rfl | ⟨q, rfl, x, hx, rfl⟩)
    · exact ⟨c :: t, by simp, rfl⟩
    · exact ⟨x, hx, rfl⟩

theorem cut_singleton_iff {p : List Char} {c : Char} : Cut p [c] ↔ p = [] := by
  rw [cut_cons_iff]
  constructor
  · rintro (rfl | ⟨q, -, hq⟩)
    · rfl
    · exact absurd hq not_cut_nil
  · exact .inl

/-- A cut of two texts is a cut of the first, or all of the first and a cut of the second. -/
theorem cut_append_iff {p s t : List Char} :
    Cut p (s ++ t) ↔ Cut p s ∨ ∃ q, p = s ++ q ∧ Cut q t := by
  constructor
  · rintro ⟨x, hx, h⟩
    rcases List.append_eq_append_iff.mp h with ⟨q, rfl, rfl⟩ | ⟨y, rfl, rfl⟩
    · exact .inr ⟨q, rfl, x, hx, rfl⟩
    · by_cases hy : y = []
      · subst hy
        exact .inr ⟨[], by simp, t, by simpa using hx, rfl⟩
      · exact .inl ⟨y, hy, rfl⟩
  · rintro (⟨x, hx, rfl⟩ | ⟨q, rfl, x, hx, rfl⟩)
    · exact ⟨x ++ t, by simp [hx], by simp⟩
    · exact ⟨x, hx, by simp⟩

theorem Cut.length_lt {p t : List Char} (h : Cut p t) : p.length < t.length := by
  obtain ⟨x, hx, rfl⟩ := h
  have := List.length_pos_iff.mpr hx
  rw [List.length_append]
  omega

theorem Cut.mem {p t : List Char} (h : Cut p t) {c : Char} (hc : c ∈ p) : c ∈ t := by
  obtain ⟨x, -, rfl⟩ := h
  exact List.mem_append_left _ hc

/-- Nothing but blanks is left where the first character after them is cut off. -/
theorem Cut.blanks {p w : List Char} {c : Char} (h : Cut p (w ++ [c])) (hw : Blanks w) :
    Blanks p := by
  rcases cut_append_iff.mp h with hp | ⟨q, rfl, hq⟩
  · exact fun d hd => hw d (hp.mem hd)
  · rw [cut_singleton_iff] at hq
    rwa [hq, List.append_nil]

/-- What does not go on with a number does not do so either when its end is cut off. -/
theorem Cut.delimited {p t : List Char} (h : Cut p t) (ht : Delimited t) : Delimited p := by
  obtain ⟨x, -, rfl⟩ := h
  cases p with
  | nil =>
    intro c hc
    cases hc
  | cons d p => exact ht

variable {β : Type}

/-- Of every cut of the text the reader says that the text ended. -/
def Awaits (read : List Char → Except Error β) (t : List Char) : Prop :=
  ∀ p, Cut p t → read p = .error .eof

/-- Of every cut of the text the reader says that the text ended, or it takes all that is left. -/
def AwaitsOrEnds (read : List Char → Except Error (β × List Char)) (t : List Char) : Prop :=
  ∀ p, Cut p t → read p = .error .eof ∨ ∃ x, read p = .ok (x, [])

/-! ## Literals -/

/-- Hexadecimal digits take one byte each, so that fewer than four of them are a text that
ended. -/
theorem awaits_hexFour {a b c d : Char} {n : Nat}
    (h : Digits.hexNumber? [a, b, c, d] = some n) : Awaits hexFour [a, b, c, d] := by
  intro p hp
  have hlen : p.length < 4 := hp.length_lt
  have hsize : Utf8.size p < 4 := by
    rw [Utf8.size_eq_length]
    · exact hlen
    · intro x hx
      obtain ⟨v, hv⟩ := Digits.exists_hexValue?_of_hexNumber? h x (hp.mem hx)
      exact Digits.utf8Size_of_hexValue? hv
  unfold hexFour
  split
  · simp only [List.length_cons] at hlen
    omega
  · exact if_pos hsize

theorem awaits_lowSurrogate {high low : Nat} {a b c d : Char}
    (h : Digits.hexNumber? [a, b, c, d] = some low) :
    Awaits (lowSurrogate high) ['\\', 'u', a, b, c, d] := by
  intro p hp
  rcases cut_cons_iff.mp hp with rfl | ⟨q, rfl, hq⟩
  · rfl
  rcases cut_cons_iff.mp hq with rfl | ⟨q', rfl, hq'⟩
  · rfl
  rw [lowSurrogate, awaits_hexFour h q' hq']

/-- An escape of four digits is missed in them, or in the second half of the pair they begin. -/
theorem awaits_readEscape {e : List Char} {c : Char} (h : WritesChar ('\\' :: e) c) :
    Awaits readEscape e := by
  intro p hp
  cases h with
  | plain h => exact absurd rfl h.2.1
  | short =>
    rw [cut_singleton_iff.mp hp]
    rfl
  | @unit a b c d n hn _ _ =>
    rcases cut_cons_iff.mp hp with rfl | ⟨q, rfl, hq⟩
    · rfl
    · rw [readEscape, awaits_hexFour hn q hq]
  | @pair a b c d a' b' c' d' high low hn hhigh hn' _ =>
    rcases cut_cons_iff.mp hp with rfl | ⟨q, rfl, hq⟩
    · rfl
    rcases (@cut_append_iff q [a, b, c, d] ['\\', 'u', a', b', c', d']).mp hq with
      hq' | ⟨q', rfl, hq'⟩
    · rw [readEscape, awaits_hexFour hn q hq']
    · have hlow : ¬ IsLowSurrogate high := fun h => absurd (Nat.le_trans h.1 hhigh.2) (by decide)
      show readEscape ('u' :: a :: b :: c :: d :: q') = _
      rw [readEscape, hexFour_eq_ok_iff.mpr ⟨a, b, c, d, rfl, hn⟩]
      refine (if_neg hlow).trans ((if_pos hhigh).trans ?_)
      exact awaits_lowSurrogate hn' q' hq'

theorem awaits_readChar {e : List Char} {c : Char} (h : WritesChar e c) : Awaits readChar e := by
  have escaped : ∀ e', e = '\\' :: e' → Awaits readChar e := by
    rintro e' rfl p hp
    rcases cut_cons_iff.mp hp with rfl | ⟨q, rfl, hq⟩
    · rfl
    · rw [readChar, if_neg (by decide), if_pos rfl, awaits_readEscape h q hq]
  cases h with
  | plain =>
    intro p hp
    rw [cut_singleton_iff.mp hp]
    rfl
  | short => exact escaped _ rfl
  | unit => exact escaped _ rfl
  | pair => exact escaped _ rfl

/-- **A literal is awaited to its closing quote.** -/
theorem awaits_readString {b t : List Char} (h : Spells b t) :
    ∀ seen, Awaits (readString seen) (b ++ ['"']) := by
  induction h with
  | nil =>
    intro seen p hp
    rw [cut_singleton_iff.mp hp, readString]
    rfl
  | @cons e s t c he _ ih =>
    intro seen p hp
    rw [List.append_assoc] at hp
    rw [readString]
    rcases cut_append_iff.mp hp with hp | ⟨q, rfl, hq⟩
    · rw [awaits_readChar he p hp]
    · rw [readChar_eq_some_iff.mpr ⟨e, he, rfl⟩]
      exact ih (c :: seen) q hq

/-! ## Values -/

theorem awaits_readTextAs {expected : String} {w v text : List Char} (hw : Blanks w)
    (hv : StringText text v) : Awaits (readTextAs expected) (w ++ v) := by
  obtain ⟨b, hb, rfl⟩ := hv
  intro p hp
  rw [List.append_cons] at hp
  rcases cut_append_iff.mp hp with hp | ⟨q, rfl, hq⟩
  · rw [readTextAs, skipBlanks_eq_nil (hp.blanks hw)]
  · rw [readTextAs, List.append_assoc, List.singleton_append, skipBlanks_append hw (by decide)]
    exact (if_pos rfl).trans (awaits_readString hb [] q hq)

theorem awaits_readText {w v : List Char} {x : String} (hw : Blanks w) (hv : TextValue x v) :
    Awaits readText (w ++ v) := by
  intro p hp
  rw [readText, awaits_readTextAs hw hv p hp]

/-- The string of an instant is missed before it is looked at as a time. -/
theorem awaits_readInstant {w v : List Char} {i : Instant} (hw : Blanks w)
    (hv : InstantValue i v) : Awaits readInstant (w ++ v) := by
  obtain ⟨text, -, hv, -⟩ := hv
  intro p hp
  rw [readInstant, awaits_readTextAs hw hv p hp]

/-- What is left of a run of digits when its end is cut off: nothing, or a run of digits of its
own that is worth no more and is no zero. -/
theorem IsWhole.cut {w q : List Char} (hw : IsWhole w) (hq : Cut q w) (hne : q ≠ []) :
    IsWhole q ∧ q ≠ ['0'] ∧ Digits.value q ≤ Digits.value w := by
  have hzero : q.head? ≠ some '0' := by
    intro h0
    obtain ⟨x, hx, rfl⟩ := hq
    have h := hw.2 (by rw [List.head?_append, h0]; rfl)
    have := congrArg List.length h
    have := List.length_pos_iff.mpr hx
    have := List.length_pos_iff.mpr hne
    simp only [List.length_append, List.length_singleton] at *
    omega
  refine ⟨⟨⟨hne, fun c hc => hw.1.2 c (hq.mem hc)⟩, fun h0 => absurd h0 hzero⟩, ?_, ?_⟩
  · rintro rfl
    exact hzero rfl
  · obtain ⟨x, -, rfl⟩ := hq
    rw [Digits.value, Digits.value, Nat.ofDigitChars_append]
    exact Digits.le_ofDigitChars _ x

/-- What is left of an integer when its end is cut off: nothing, its sign, or an integer between
zero and it. -/
theorem IntegerText.cut {n : Int} {v q : List Char} (hv : IntegerText n v) (hq : Cut q v) :
    q = [] ∨ q = ['-'] ∨
      ∃ m, IntegerText m q ∧ (0 ≤ m ∧ m ≤ n ∨ n ≤ m ∧ m ≤ 0) := by
  cases hv with
  | positive hw =>
    by_cases hne : q = []
    · exact .inl hne
    · obtain ⟨hwhole, -, hle⟩ := hw.cut hq hne
      exact .inr (.inr ⟨_, .positive hwhole, .inl (by omega)⟩)
  | negative hw _ =>
    rcases cut_cons_iff.mp hq with rfl | ⟨q', rfl, hq'⟩
    · exact .inl rfl
    · by_cases hne : q' = []
      · exact .inr (.inl (by rw [hne]))
      · obtain ⟨hwhole, hzero, hle⟩ := hw.cut hq' hne
        exact .inr (.inr ⟨_, .negative hwhole hzero, .inr (by omega)⟩)

/-- **An integer is awaited up to its first digit.** From there on it is read as far as it goes. -/
theorem awaitsOrEnds_readInt32 {w v : List Char} {n : Int32} (hw : Blanks w)
    (hv : Int32Value n v) : AwaitsOrEnds readInt32 (w ++ v) := by
  intro p hp
  have hblanks : ∀ w', Blanks w' → readInt32 w' = .error .eof := by
    intro w' hw'
    rw [readInt32, skipBlanks_eq_nil hw']
  rcases cut_append_iff.mp hp with hp | ⟨q, rfl, hq⟩
  · exact .inl (hblanks p fun c hc => hw c (hp.mem hc))
  rcases hv.cut hq with rfl | rfl | ⟨m, hm, hrange⟩
  · exact .inl (hblanks _ (by rwa [List.append_nil]))
  · left
    rw [readInt32, skipBlanks_append hw (by decide)]
    rfl
  · right
    have hlow : -2147483648 ≤ n.toInt := n.le_toInt
    have hhigh : n.toInt < 2147483648 := n.toInt_lt
    have hround : (Int32.ofInt m).toInt = m := Int32.toInt_ofInt_of_le (by omega) (by omega)
    have hread := readInt32_eq_ok hw (hround.symm ▸ hm) (r := []) (by intro c hc; cases hc)
    rw [List.append_nil] at hread
    exact ⟨_, hread⟩

/-! ## Members -/

theorem awaits_colon {w : List Char} (hw : Blanks w) : Awaits colon (w ++ [':']) := by
  intro p hp
  rw [colon, skipBlanks_eq_nil (hp.blanks hw)]

theorem nextMember_blanks {isFirst : Bool} {w : List Char} (hw : Blanks w) :
    nextMember isFirst w = .error .eof := by
  rw [nextMember, skipBlanks_eq_nil hw]

theorem awaits_nextMember {isFirst : Bool} {l : List Char} (hl : ItemLead isFirst l) :
    Awaits (nextMember isFirst) (l ++ ['"']) := by
  intro p hp
  cases isFirst with
  | true => exact nextMember_blanks (hp.blanks hl)
  | false =>
    obtain ⟨w, w', hw, hw', rfl⟩ := hl
    rw [List.append_assoc, List.cons_append, List.append_cons] at hp
    rcases cut_append_iff.mp hp with hp | ⟨q, rfl, hq⟩
    · exact nextMember_blanks (hp.blanks hw)
    · rw [nextMember, List.append_assoc, List.singleton_append, skipBlanks_append hw (by decide)]
      simp only [skipBlanks_eq_nil (hq.blanks hw')]
      rfl

variable {δ α : Type}

/-- Of a value that breaks off the field says that the text ended, or it reads what is left. -/
def Slot.Patient (k : Slot δ α) : Prop :=
  ∀ {w v : List Char} {x : k.Content}, Blanks w → k.Written x v →
    AwaitsOrEnds k.field.read (w ++ v)

theorem Slot.of_patient {name : String} {get : δ → Option β} {set : β → δ → δ} {ofRecord : α → β}
    {read : List Char → Except Error (β × List Char)}
    {read_length : ∀ {s r : List Char} {b : β}, read s = .ok (b, r) → r.length < s.length}
    {Written : β → List Char → Prop}
    (h : ∀ {w v : List Char} {x : β}, Blanks w → Written x v → AwaitsOrEnds read (w ++ v)) :
    (Slot.of name get set ofRecord read read_length Written).Patient := by
  intro w v x hw hv p hp
  simp only [Slot.of, Field.of]
  rcases h hw hv p hp with heof | ⟨y, hy⟩
  · rw [heof]
    exact .inl rfl
  · rw [hy]
    exact .inr ⟨_, rfl⟩

section Lawful

variable {shape : Shape δ α} {slots : List (Slot δ α)}

/-- A member of a known name is awaited as its value is. -/
theorem Shape.Lawful.awaitsOrEnds_readMember (lawful : shape.Lawful slots) {d : δ} {k : Slot δ α}
    {b w w' v : List Char} {x : k.Content} (hk : k ∈ slots) (patient : k.Patient)
    (hopen : k.get d = none) (hb : Spells b k.key) (hw : Blanks w) (hw' : Blanks w')
    (hv : k.Written x v) :
    AwaitsOrEnds (shape.readMember d) (b ++ '"' :: (w ++ ':' :: (w' ++ v))) := by
  intro p hp
  rw [List.append_cons] at hp
  rcases cut_append_iff.mp hp with hp | ⟨q, rfl, hq⟩
  · left
    rw [Shape.readMember, awaits_readString hb [] p hp]
  rw [List.append_assoc, List.singleton_append, lawful.readMember_of_open hk hopen hb]
  rw [List.append_cons] at hq
  rcases cut_append_iff.mp hq with hq | ⟨r, rfl, hr⟩
  · left
    rw [awaits_colon hw q hq]
    rfl
  · rw [colon_eq_ok_iff.mpr ⟨w, hw, by rw [List.append_assoc, List.singleton_append]⟩]
    exact patient hw' hv r hr

/-- **The members of an object are awaited to its closing brace.** -/
theorem Shape.Lawful.awaits_readMembers (lawful : shape.Lawful slots)
    (patient : ∀ k ∈ slots, k.Patient) {ms : List (List Char × List Char)} {d d' : δ}
    (h : Changes slots d ms d') (hnamed : ∀ m ∈ ms, ∃ k ∈ slots, m.1 = k.key) :
    ∀ {isFirst : Bool} {t : List Char}, Series MemberText '}' isFirst ms t →
      Awaits (shape.readMembers isFirst d) t := by
  induction h with
  | nil =>
    intro isFirst t ht p hp
    obtain ⟨w, hw, rfl⟩ := ht.eq_of_nil
    rw [Shape.readMembers, nextMember_blanks (hp.blanks hw)]
  | @cons d d₁ d₂ m ms hm _ ih =>
    intro isFirst t ht p hp
    rw [List.forall_mem_cons] at hnamed
    obtain ⟨l, s, t', hl, hs, ht', rfl⟩ := ht.exists_lead
    obtain ⟨b, w, w', hb, hw, hw', rfl⟩ := id hs
    rw [List.cons_append, List.append_cons] at hp
    rcases cut_append_iff.mp hp with hp | ⟨q, rfl, hq⟩
    · rw [Shape.readMembers, awaits_nextMember hl p hp]
    rw [List.append_assoc, List.singleton_append]
    rcases cut_append_iff.mp hq with hq | ⟨r, rfl, hr⟩
    · -- the member breaks off, or it is read and the brace is missed
      rw [shape.readMembers_of_lead hl]
      cases hm with
      | @known k x v hk hopen hv =>
        rcases lawful.awaitsOrEnds_readMember hk (patient k hk) hopen hb hw hw' hv q hq with
          heof | ⟨fill, hfill⟩
        · rw [heof]
          rfl
        · rw [hfill]
          show shape.readMembers false (fill d) [] = _
          rw [Shape.readMembers, nextMember_blanks .nil]
      | other hother _ =>
        obtain ⟨k, hk, hkey⟩ := hnamed.1
        exact absurd hkey (hother k hk)
    · have hdelimited : Delimited t' := by
        simpa using ht'.delimited (.inr rfl) []
      rw [← List.cons_append, lawful.readMembers_cons hl hs hm (hr.delimited hdelimited)]
      exact ih hnamed.2 ht' r hr

/-! ## Whole records -/

/-- **A written object is awaited to its last character.** -/
theorem Shape.Lawful.awaits_objectChars (lawful : shape.Lawful slots)
    (patient : ∀ k ∈ slots, k.Patient) {u : α} {ms : List (List Char × List Char)}
    (hnames : (ms.map Prod.fst).Nodup)
    (hfields : ∀ k ∈ slots, ∃ v, (k.key, v) ∈ ms ∧ k.Written (k.ofRecord u) v)
    (hnamed : ∀ m ∈ ms, ∃ k ∈ slots, m.1 = k.key) : Awaits shape.read (objectChars ms) := by
  intro p hp
  obtain ⟨s, hs, htext⟩ := exists_series_objectChars ms
  obtain ⟨d, hd, -⟩ := lawful.exists_changes (u := u) (d := shape.blank)
    (fun k hk =>
      have ⟨v, hv, hw⟩ := hfields k hk
      .inr ⟨lawful.get_blank k hk, v, filter_eq_singleton hnames hv, hw⟩)
    (fun m hm hother =>
      have ⟨k, hk, hkey⟩ := hnamed m hm
      absurd hkey (hother k hk))
  rw [htext] at hp
  rcases cut_cons_iff.mp hp with rfl | ⟨q, rfl, hq⟩
  · rfl
  · have hobject : shape.readObject q = .error .eof := by
      rw [Shape.readObject, lawful.awaits_readMembers patient hd hnamed hs q hq]
    have hrecord : shape.readRecord ('{' :: q) = .error .eof := hobject
    rw [Shape.read, hrecord]

/-- A text that is a record is one record and blanks, and is read as far as the record goes
whatever follows it. -/
theorem Shape.Lawful.exists_readRecord_append (lawful : shape.Lawful slots) {s : List Char} {u : α}
    (h : shape.read s = .ok u) :
    ∃ w, Blanks w ∧ ∀ x, shape.readRecord (s ++ x) = .ok (u, w ++ x) := by
  obtain ⟨w, t, w', hw, hw', ht, rfl⟩ := lawful.read_eq_ok_iff.mp h
  refine ⟨w', hw', fun x => ?_⟩
  rw [List.append_assoc, List.append_assoc]
  exact lawful.readRecord_eq_ok hw ht (w' ++ x)

/-- **Blanks after a record change nothing.** -/
theorem Shape.Lawful.read_append_blanks (lawful : shape.Lawful slots) {s x : List Char} {u : α}
    (h : shape.read s = .ok u) (hx : Blanks x) : shape.read (s ++ x) = .ok u := by
  obtain ⟨w, hw, hrecord⟩ := lawful.exists_readRecord_append h
  rw [Shape.read, hrecord x]
  simp [skipBlanks_eq_nil (hw.append hx)]

/-- **Anything else after a record is malformed.** -/
theorem Shape.Lawful.read_append_of_not_blanks (lawful : shape.Lawful slots) {s x : List Char}
    {u : α} (h : shape.read s = .ok u) (hx : ¬ Blanks x) :
    shape.read (s ++ x) = .error .malformed := by
  obtain ⟨w, hw, hrecord⟩ := lawful.exists_readRecord_append h
  have hmore : ¬ (skipBlanks (w ++ x)).isEmpty = true := by
    rw [List.isEmpty_iff, skipBlanks, List.dropWhile_eq_nil_iff]
    exact fun hall => hx fun c hc => hall c (List.mem_append_right _ hc)
  rw [Shape.read, hrecord x]
  exact if_neg hmore

end Lawful

end Json

end UserDirectory
