import UserDirectory.Proofs.Json.Record
import UserDirectory.Proofs.Time.Instant

/-!
# The grammar of values

How the values that records hold are written, and that each of their readers is exact. What the
writer puts down for a value is one of its written forms.

* `TextValue x v`: a string literal for the text `x`
* `InstantValue i v`: a string literal for a text that denotes the instant `i`
* `Int32Value n v`: an integer without fraction and exponent, which is not `-0`
-/

namespace UserDirectory.Json

/-- A string literal for the given characters. -/
def StringText (text v : List Char) : Prop := ∃ b, Spells b text ∧ v = '"' :: (b ++ ['"'])

/-- How a text is written. -/
def TextValue (x : String) (v : List Char) : Prop := StringText x.toList v

/-- How an instant is written: as a string that spells a local time on which it falls. -/
def InstantValue (i : Instant) (v : List Char) : Prop :=
  ∃ text t, StringText text v ∧ LocalTime.Text t text ∧ t.Denotes i

/-- How a 32-bit integer is written. -/
def Int32Value (n : Int32) (v : List Char) : Prop := IntegerText n.toInt v

/-! ## Reading -/

theorem StringText.exists_cons {text v : List Char} (h : StringText text v) :
    ∃ c s, v = c :: s ∧ StartsValue c := by
  obtain ⟨b, -, rfl⟩ := h
  exact ⟨'"', _, rfl, by decide, by decide, by decide, by decide⟩

theorem readTextAs_eq_ok_iff {expected : String} {s r text : List Char} :
    readTextAs expected s = .ok (text, r) ↔
      ∃ w v, Blanks w ∧ StringText text v ∧ s = w ++ (v ++ r) := by
  constructor
  · intro h
    unfold readTextAs at h
    split at h
    · simp at h
    · next c s' hskip =>
      obtain ⟨w, hw, rfl⟩ := exists_blanks_of_skipBlanks hskip
      split at h
      · next hc =>
        obtain ⟨b, hb, rfl⟩ := readString_eq_ok_iff.mp h
        exact ⟨w, _, hw, ⟨b, hb, rfl⟩, by rw [hc]; simp⟩
      · simp at h
  · rintro ⟨w, v, hw, ⟨b, hb, rfl⟩, rfl⟩
    have hread : readString [] (b ++ '"' :: r) = .ok (text, r) :=
      readString_eq_ok_iff.mpr ⟨b, hb, rfl⟩
    rw [readTextAs, List.cons_append, skipBlanks_append hw (by decide), List.append_assoc]
    exact (if_pos rfl).trans hread

theorem readsExactly_readText : ReadsExactly readText TextValue where
  sound {s r x} h := by
    unfold readText at h
    split at h
    · simp at h
    · next text s' htext =>
      obtain ⟨rfl, rfl⟩ := Prod.mk.inj (Except.ok.inj h)
      obtain ⟨w, v, hw, hv, hs⟩ := readTextAs_eq_ok_iff.mp htext
      exact ⟨w, v, hw, by rwa [TextValue, String.toList_ofList], hs⟩
  complete {w v r x} hw hv _ := by
    rw [readText, readTextAs_eq_ok_iff.mpr ⟨w, v, hw, hv, rfl⟩]
    simp only [String.ofList_toList]
  starts hv := hv.exists_cons

theorem readsExactly_readInstant : ReadsExactly readInstant InstantValue where
  sound {s r i} h := by
    unfold readInstant at h
    split at h
    · simp at h
    · next text s' htext =>
      obtain ⟨w, v, hw, hv, hs⟩ := readTextAs_eq_ok_iff.mp htext
      split at h
      · simp at h
      · next i' hi =>
        obtain ⟨rfl, rfl⟩ := Prod.mk.inj (Except.ok.inj h)
        obtain ⟨t, ht, hdenotes⟩ := Instant.read_eq_ok_iff.mp hi
        exact ⟨w, v, hw, ⟨text, t, hv, ht, hdenotes⟩, hs⟩
  complete {w v r i} hw hv _ := by
    obtain ⟨text, t, hv, ht, hdenotes⟩ := hv
    rw [readInstant, readTextAs_eq_ok_iff.mpr ⟨w, v, hw, hv, rfl⟩]
    simp only [Instant.read_eq_ok_iff.mpr ⟨t, ht, hdenotes⟩]
  starts hv := by
    obtain ⟨text, t, hv, -⟩ := hv
    exact hv.exists_cons

theorem readsExactly_readInt32 : ReadsExactly readInt32 Int32Value where
  sound h := exists_integer_of_readInt32 h
  complete hw hv hr := readInt32_eq_ok hw hv hr
  starts hv := by
    obtain ⟨c, s, rfl, hc⟩ := hv.exists_cons
    refine ⟨c, s, rfl, ?_⟩
    rcases hc with rfl | hc
    · exact ⟨by decide, by decide, by decide, by decide⟩
    · exact startsValue_of_isDigit hc

/-! ## Writing -/

theorem stringText_literal (text : List Char) : StringText text (literal text) :=
  ⟨text.flatMap escape, spells_escape text, rfl⟩

theorem textValue_literal (x : String) : TextValue x (literal x.toList) :=
  stringText_literal x.toList

theorem instantValue_literal (i : Instant) : InstantValue i (literal i.text) :=
  ⟨i.text, i.utc, stringText_literal i.text, i.text_utc, i.denotes_utc⟩

theorem int32Value_signed (n : Int32) : Int32Value n (Digits.signed n.toInt) :=
  integerText_signed n.toInt

/-! ## Whole objects -/

/-- A member of an object without blanks. -/
def memberChars (m : List Char × List Char) : List Char := literal m.1 ++ ':' :: m.2

/-- An object with the given members, without blanks. -/
def objectChars : List (List Char × List Char) → List Char
  | [] => ['{', '}']
  | m :: ms => '{' :: (memberChars m ++ (ms.flatMap (fun m => ',' :: memberChars m) ++ ['}']))

theorem memberText_memberChars (m : List Char × List Char) : MemberText m (memberChars m) :=
  ⟨m.1.flatMap escape, [], [], spells_escape m.1, .nil, .nil, by simp [memberChars, literal]⟩

theorem series_later (ms : List (List Char × List Char)) :
    Series MemberText '}' false ms (ms.flatMap (fun m => ',' :: memberChars m) ++ ['}']) := by
  induction ms with
  | nil => exact .close .nil
  | cons m ms ih =>
    have h := Series.next .nil .nil (memberText_memberChars m) ih
    simpa using h

theorem exists_series_objectChars (ms : List (List Char × List Char)) :
    ∃ s, Series MemberText '}' true ms s ∧ objectChars ms = '{' :: s := by
  cases ms with
  | nil => exact ⟨_, .close .nil, rfl⟩
  | cons m ms => exact ⟨_, .first .nil (memberText_memberChars m) (series_later ms), rfl⟩

/-- Among members of different names there is one of each name. -/
theorem filter_eq_singleton {ms : List (List Char × List Char)} (hnodup : (ms.map Prod.fst).Nodup)
    {m : List Char × List Char} (hm : m ∈ ms) : (ms.filter fun m' => m'.1 = m.1) = [m] := by
  induction ms with
  | nil => cases hm
  | cons m' ms ih =>
    rw [List.map_cons, List.nodup_cons] at hnodup
    rcases List.mem_cons.mp hm with rfl | hm
    · rw [List.filter_cons_of_pos (by simp), List.filter_eq_nil_iff.mpr]
      intro m' hm' hsame
      rw [decide_eq_true_iff] at hsame
      exact hnodup.1 (hsame ▸ List.mem_map_of_mem hm')
    · have hne : m'.1 ≠ m.1 := fun hsame => hnodup.1 (hsame ▸ List.mem_map_of_mem hm)
      rw [List.filter_cons_of_neg (by simpa using hne), ih hnodup.2 hm]

/-- An object that has one member for each field, with a value of the field, is a record. -/
theorem recordText_objectChars {ps : List (FieldText × List Char)}
    (hnames : (ps.map fun p => p.1.name.toList).Nodup) (hps : ∀ p ∈ ps, p.1.Value p.2) :
    RecordText (ps.map Prod.fst) (objectChars (ps.map fun p => (p.1.name.toList, p.2))) := by
  obtain ⟨s, hs, htext⟩ := exists_series_objectChars (ps.map fun p => (p.1.name.toList, p.2))
  have hkeys : ((ps.map fun p => (p.1.name.toList, p.2)).map Prod.fst).Nodup := by
    rwa [List.map_map]
  refine ⟨[], _, [], .nil, .nil, .inr ⟨_, s, hs, htext, ?_, ?_⟩, by simp⟩
  · rw [List.forall_mem_map]
    intro p hp
    exact ⟨p.2, filter_eq_singleton hkeys (List.mem_map_of_mem hp), hps p hp⟩
  · rw [List.forall_mem_map]
    intro p hp hother
    exact absurd rfl (hother p.1 (List.mem_map_of_mem hp))

end UserDirectory.Json
