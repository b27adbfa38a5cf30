import UserDirectory.Proofs.Json.Value

/-!
# Where reading an object stops

An object is read from left to right. The members before a faulty one change the draft, and what
the faulty one is said to be depends on that draft alone: nothing that stands after it is looked at
(`Shape.Lawful.readMembers_eq_error`).

* `Shape.Lawful.stopsAt_of_filled`: a slot that is filled makes a repeated name a fault, whatever
  stands after the name
* `Shape.Lawful.stopsAt_of_refused`: an open slot passes on the fault of its value
* `Shape.Lawful.isSome_get_of_changes`: a slot is filled when a member before has named it
-/

namespace UserDirectory.Json

/-- An object with the given members, in a text with blanks around it. -/
def ObjectOf (ms : List (List Char × List Char)) (s : List Char) : Prop :=
  ∃ w t w', Blanks w ∧ Blanks w' ∧ Series MemberText '}' true ms t ∧ s = w ++ '{' :: (t ++ w')

theorem objectOf_objectChars (ms : List (List Char × List Char)) : ObjectOf ms (objectChars ms) := by
  obtain ⟨t, ht, htext⟩ := exists_series_objectChars ms
  exact ⟨[], t, [], .nil, .nil, ht, by simp [htext]⟩

/-- A literal spells one text. -/
theorem StringText.unique {text text' v : List Char} (h : StringText text v)
    (h' : StringText text' v) : text = text' := by
  obtain ⟨b, hb, rfl⟩ := h
  obtain ⟨b', hb', heq⟩ := h'
  exact (hb.append_inj hb' (List.cons.inj heq).2).1

/-- Different outcomes of the data are different outcomes of reading. -/
theorem mapError_data_inj {α : Type} {a a' : Except Fault α}
    (h : a.mapError Error.data = a'.mapError Error.data) : a = a' := by
  cases a with
  | error fault =>
    cases a' with
    | error fault' => rw [Error.data.inj (Except.error.inj h)]
    | ok _ => cases h
  | ok u =>
    cases a' with
    | error _ => cases h
    | ok u' => rw [Except.ok.inj h]

variable {δ α : Type} {shape : Shape δ α} {slots : List (Slot δ α)}

/-- Of a value that is written so the field says what is wrong with it. -/
def Slot.Refuses (k : Slot δ α) (v : List Char) (fault : Fault) : Prop :=
  ∀ w r : List Char, Blanks w → k.field.read (w ++ (v ++ r)) = .error (.data fault)

/-- Reading stops at the member with an error, whatever follows it. -/
def Shape.StopsAt (shape : Shape δ α) (d : δ) (m : List Char × List Char) (e : Error) : Prop :=
  ∀ b r : List Char, MemberText m ('"' :: b) → shape.readMember d (b ++ r) = .error e

/-! ## Members -/

/-- A name that is repeated is a fault before its value is looked at. -/
theorem Shape.Lawful.stopsAt_of_filled (lawful : shape.Lawful slots) {k : Slot δ α} {d : δ}
    (hk : k ∈ slots) (hfilled : (k.get d).isSome = true) (v : List Char) :
    shape.StopsAt d (k.key, v) (.data (.duplicateField k.field.name)) := by
  rintro b r ⟨b', w, w', hb, -, -, heq⟩
  obtain rfl := (List.cons.inj heq).2
  rw [← (lawful.exact k hk).filled_eq] at hfilled
  rw [List.append_assoc, List.cons_append, Shape.readMember,
    readString_eq_ok_iff.mpr ⟨b', hb, rfl⟩]
  simp only [lawful.field?_key hk, if_pos hfilled]

/-- What an open slot says of its value is the fault of the member. -/
theorem Shape.Lawful.stopsAt_of_refused (lawful : shape.Lawful slots) {k : Slot δ α} {d : δ}
    {v : List Char} {fault : Fault} (hk : k ∈ slots) (hopen : k.get d = none)
    (hv : k.Refuses v fault) : shape.StopsAt d (k.key, v) (.data fault) := by
  rintro b r ⟨b', w, w', hb, hw, hw', heq⟩
  obtain rfl := (List.cons.inj heq).2
  have htext : b' ++ '"' :: (w ++ ':' :: (w' ++ v)) ++ r
      = b' ++ '"' :: (w ++ ':' :: (w' ++ (v ++ r))) := by simp
  rw [htext, lawful.readMember_of_open hk hopen hb, colon_eq_ok_iff.mpr ⟨w, hw, rfl⟩]
  exact hv w' r hw'

/-- A slot is filled exactly if a member has named it. -/
theorem Shape.Lawful.isSome_get_of_changes (lawful : shape.Lawful slots)
    {ms : List (List Char × List Char)} {d : δ} (h : Changes slots shape.blank ms d)
    {k : Slot δ α} (hk : k ∈ slots) :
    (k.get d).isSome = true ↔ k.key ∈ ms.map Prod.fst := by
  rw [List.mem_map]
  rcases lawful.filter_of_changes h hk with ⟨hnil, hsame⟩ | ⟨-, v, x, hv, -, hget⟩
  · rw [hsame, lawful.get_blank k hk]
    refine iff_of_false (by simp) ?_
    rintro ⟨m, hm, hkey⟩
    exact absurd (List.filter_eq_nil_iff.mp hnil m hm) (by simpa using hkey)
  · rw [hget]
    refine iff_of_true rfl ⟨(k.key, v), ?_, rfl⟩
    exact (List.mem_filter.mp (hv ▸ List.mem_singleton_self _)).1

/-- The value of a member that names a slot stands in the draft. -/
theorem Shape.Lawful.exists_get_of_changes (lawful : shape.Lawful slots)
    {ms : List (List Char × List Char)} {d : δ} (h : Changes slots shape.blank ms d)
    {k : Slot δ α} (hk : k ∈ slots) {v : List Char} (hm : (k.key, v) ∈ ms) :
    ∃ x, k.Written x v ∧ k.get d = some x := by
  have hmem : (k.key, v) ∈ ms.filter fun m => m.1 = k.key :=
    List.mem_filter.mpr ⟨hm, decide_eq_true rfl⟩
  rcases lawful.filter_of_changes h hk with ⟨hnil, -⟩ | ⟨-, v', x, hv, hx, hget⟩
  · rw [hnil] at hmem
    cases hmem
  · rw [hv, List.mem_singleton] at hmem
    obtain rfl := (Prod.mk.inj hmem).2
    exact ⟨x, hx, hget⟩

/-! ## Objects -/

/-- **Reading an object stops at a faulty member.** The members before it make the draft from which
the fault is told; what follows it does not count. -/
theorem Shape.Lawful.readMembers_eq_error (lawful : shape.Lawful slots)
    {ms : List (List Char × List Char)} {d d' : δ} (h : Changes slots d ms d')
    {m : List Char × List Char} {e : Error} (hstop : shape.StopsAt d' m e)
    {after : List (List Char × List Char)} : ∀ {isFirst : Bool} {t r : List Char},
      Series MemberText '}' isFirst (ms ++ m :: after) t →
      shape.readMembers isFirst d (t ++ r) = .error e := by
  induction h with
  | nil =>
    intro isFirst t r ht
    obtain ⟨l, _, t', hl, hm, -, rfl⟩ := ht.exists_lead
    obtain ⟨b, w, w', hb, hw, hw', rfl⟩ := id hm
    have htext : l ++ ('"' :: (b ++ '"' :: (w ++ ':' :: (w' ++ m.2))) ++ t') ++ r
        = l ++ '"' :: ((b ++ '"' :: (w ++ ':' :: (w' ++ m.2))) ++ (t' ++ r)) := by simp
    rw [htext, shape.readMembers_of_lead hl, hstop _ (t' ++ r) hm]
    rfl
  | cons hm _ ih =>
    intro isFirst t r ht
    obtain ⟨l, s, t', hl, hs, ht', rfl⟩ := ht.exists_lead
    rw [List.append_assoc, List.append_assoc,
      lawful.readMembers_cons hl hs hm (ht'.delimited (.inr rfl) r)]
    exact ih hstop ht'

/-- An object whose members are read into a draft is finished from that draft. -/
theorem Shape.Lawful.read_of_changes (lawful : shape.Lawful slots)
    {ms : List (List Char × List Char)} {d : δ} (h : Changes slots shape.blank ms d)
    {s : List Char} (hs : ObjectOf ms s) : shape.read s = (shape.finish d).mapError .data := by
  obtain ⟨w, t, w', hw, hw', ht, rfl⟩ := hs
  have hrecord : shape.readRecord (w ++ '{' :: (t ++ w')) = shape.readObject (t ++ w') := by
    rw [Shape.readRecord, skipBlanks_append hw (by decide)]
    rfl
  rw [Shape.read, hrecord, Shape.readObject, lawful.readMembers_eq_ok h ht]
  cases hfinish : shape.finish d with
  | error fault =>
    simp only [hfinish]
    rfl
  | ok u =>
    simp only [hfinish, skipBlanks_eq_nil hw']
    rfl

/-- An object whose members are read up to a faulty one has the fault of that member. -/
theorem Shape.Lawful.read_of_fault (lawful : shape.Lawful slots)
    {ms after : List (List Char × List Char)} {m : List Char × List Char} {d : δ} {e : Error}
    (h : Changes slots shape.blank ms d) (hstop : shape.StopsAt d m e) {s : List Char}
    (hs : ObjectOf (ms ++ m :: after) s) : shape.read s = .error e := by
  obtain ⟨w, t, w', hw, hw', ht, rfl⟩ := hs
  have hrecord : shape.readRecord (w ++ '{' :: (t ++ w')) = .error e := by
    rw [Shape.readRecord, skipBlanks_append hw (by decide)]
    show shape.readObject (t ++ w') = _
    rw [Shape.readObject, lawful.readMembers_eq_error h hstop ht]
  rw [Shape.read, hrecord]

end UserDirectory.Json
