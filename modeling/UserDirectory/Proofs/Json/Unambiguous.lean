import UserDirectory.Proofs.Json.Faults

/-!
# Records are written unambiguously

A text is a record in at most one way: it is not an array and an object at once, and the values that
stand for its fields are the same in every reading (`RecordText.meet`).

Each part of the grammar is compared with a rest behind it, since only the marks around a value
tell where it ends: two values with delimited rests that make up the same text are the same value
(`IsValue.append_inj`). From values this goes to the items of a bracket (`Series.append_inj`) and to
whole records.
-/

namespace UserDirectory.Json

/-! ## Values -/

/-- A value ends where it is passed over, so that it is told apart from what follows it. -/
theorem IsValue.append_inj {w w' v v' r r' : List Char} (hw : Blanks w) (hw' : Blanks w')
    (hv : IsValue v) (hv' : IsValue v') (hr : Delimited r) (hr' : Delimited r')
    (h : w ++ (v ++ r) = w' ++ (v' ++ r')) : v = v' ∧ r = r' := by
  have hskip := skipValue_eq_ok hw hv hr
  rw [h, skipValue_eq_ok hw' hv' hr'] at hskip
  obtain rfl := Except.ok.inj hskip
  rw [← List.append_assoc, ← List.append_assoc] at h
  have hfront := List.append_cancel_right h
  obtain ⟨c, s, rfl, hc⟩ := hv.exists_cons
  obtain ⟨c', s', rfl, hc'⟩ := hv'.exists_cons
  obtain ⟨rfl, rfl⟩ := hw.append_cons_inj hw' hc.1 hc'.1 hfront
  exact ⟨rfl, rfl⟩

/-- A literal that spells a text is a value. -/
theorem StringText.isValue {text v : List Char} (h : StringText text v) : IsValue v := by
  obtain ⟨b, hb, rfl⟩ := h
  exact .scalar (.string hb.passes)

/-! ## Items -/

/-- Items that begin like values and are told apart from a delimited rest. -/
structure SelfEnding {ι : Type} (item : ι → List Char → Prop) (Good : ι → Prop) : Prop where
  starts : ∀ {i : ι} {s : List Char}, Good i → item i s → ∃ c t, s = c :: t ∧ StartsValue c
  append_inj : ∀ {i i' : ι} {s s' r r' : List Char}, Good i → Good i' → item i s → item i' s' →
    Delimited r → Delimited r' → s ++ r = s' ++ r' → i = i' ∧ r = r'

theorem selfEnding_elementText : SelfEnding ElementText IsValue where
  starts := by
    rintro v _ hv rfl
    exact hv.exists_cons
  append_inj := by
    rintro v v' _ _ r r' hv hv' rfl rfl hr hr' h
    exact IsValue.append_inj .nil .nil hv hv' hr hr' h

theorem selfEnding_memberText : SelfEnding MemberText fun m => IsValue m.2 where
  starts := by
    rintro m _ - ⟨b, w, w', -, -, -, rfl⟩
    exact ⟨'"', _, rfl, by decide, by decide, by decide, by decide⟩
  append_inj := by
    rintro ⟨name, v⟩ ⟨name', v'⟩ _ _ r r' hv hv' ⟨b, w₁, w₂, hb, hw₁, hw₂, rfl⟩
      ⟨b', w₁', w₂', hb', hw₁', hw₂', rfl⟩ hr hr' h
    simp only [List.cons_append, List.append_assoc, List.cons.injEq, true_and] at h
    -- first the key, then the colon, then the value
    obtain ⟨rfl, hcolon⟩ := hb.append_inj hb' h
    obtain ⟨-, hvalue⟩ := hw₁.append_cons_inj hw₁' (by decide) (by decide) hcolon
    obtain ⟨rfl, rfl⟩ := IsValue.append_inj hw₂ hw₂' hv hv' hr hr' hvalue
    exact ⟨rfl, rfl⟩

/-! ## Series -/

section Series

variable {ι : Type} {item : ι → List Char → Prop} {Good : ι → Prop} {close : Char}

/-- What stands before an item is told apart from the item. -/
theorem ItemLead.append_inj {isFirst : Bool} {p p' s s' : List Char} {c c' : Char}
    (hp : ItemLead isFirst p) (hp' : ItemLead isFirst p') (hc : StartsValue c)
    (hc' : StartsValue c') (h : p ++ c :: s = p' ++ c' :: s') : c :: s = c' :: s' := by
  have hnext := nextItem_eq_ok (s := s) hp hc
  rw [h, nextItem_eq_ok hp' hc'] at hnext
  exact (Option.some.inj (Except.ok.inj hnext)).symm

theorem not_blank_of_close (hclose : close = ']' ∨ close = '}') : isBlank close = false := by
  rcases hclose with rfl | rfl <;> rfl

/-- Where an item stands, the bracket is not closed. -/
theorem ItemLead.ne_close {isFirst : Bool} {p w r s : List Char} {c : Char}
    (hp : ItemLead isFirst p) (hc : StartsValue c) (hw : Blanks w)
    (hclose : close = ']' ∨ close = '}') : w ++ close :: r ≠ p ++ c :: s := by
  intro h
  have hblank := not_blank_of_close hclose
  cases isFirst with
  | true =>
    obtain ⟨rfl, -⟩ := hw.append_cons_inj hp hblank hc.1 h
    exact hclose.elim hc.2.2.1 hc.2.2.2
  | false =>
    obtain ⟨w₁, w₂, hw₁, -, rfl⟩ := hp
    rw [List.append_assoc, List.cons_append] at h
    obtain ⟨rfl, -⟩ := hw.append_cons_inj hw₁ hblank (by decide) h
    exact absurd hclose (by decide)

/-- **A series has one list of items**, and it ends where its bracket is closed. -/
theorem Series.append_inj (hitem : SelfEnding item Good) (hclose : close = ']' ∨ close = '}')
    {is is' : List ι} (hgood : ∀ i ∈ is, Good i) (hgood' : ∀ i ∈ is', Good i) :
    ∀ {isFirst : Bool} {t t' r r' : List Char}, Series item close isFirst is t →
      Series item close isFirst is' t' → t ++ r = t' ++ r' → is = is' ∧ r = r' := by
  induction is generalizing is' with
  | nil =>
    intro isFirst t t' r r' ht ht' h
    obtain ⟨w, hw, rfl⟩ := ht.eq_of_nil
    rw [List.append_assoc, List.singleton_append] at h
    cases is' with
    | nil =>
      obtain ⟨w', hw', rfl⟩ := ht'.eq_of_nil
      rw [List.append_assoc, List.singleton_append] at h
      have hblank := not_blank_of_close hclose
      exact ⟨rfl, (hw.append_cons_inj hw' hblank hblank h).2⟩
    | cons i' is' =>
      obtain ⟨p, s, t', hp, hi, -, rfl⟩ := ht'.exists_lead
      obtain ⟨c, s, rfl, hc⟩ := hitem.starts (hgood' i' List.mem_cons_self) hi
      rw [List.append_assoc, List.append_assoc, List.cons_append] at h
      exact absurd h (hp.ne_close hc hw hclose)
  | cons i is ih =>
    intro isFirst t t' r r' ht ht' h
    obtain ⟨p, s, t₁, hp, hi, ht₁, rfl⟩ := ht.exists_lead
    have hgoodi := hgood i List.mem_cons_self
    obtain ⟨c, s, rfl, hc⟩ := hitem.starts hgoodi hi
    rw [List.append_assoc, List.append_assoc, List.cons_append] at h
    cases is' with
    | nil =>
      obtain ⟨w, hw, rfl⟩ := ht'.eq_of_nil
      rw [List.append_assoc, List.singleton_append] at h
      exact absurd h.symm (hp.ne_close hc hw hclose)
    | cons i' is' =>
      obtain ⟨p', s', t₁', hp', hi', ht₁', rfl⟩ := ht'.exists_lead
      have hgoodi' := hgood' i' List.mem_cons_self
      obtain ⟨c', s', rfl, hc'⟩ := hitem.starts hgoodi' hi'
      rw [List.append_assoc, List.append_assoc, List.cons_append] at h
      obtain ⟨rfl, hrest⟩ := hitem.append_inj hgoodi hgoodi' hi hi' (ht₁.delimited hclose r)
        (ht₁'.delimited hclose r') (hp.append_inj hp' hc hc' h)
      obtain ⟨rfl, rfl⟩ := ih (fun j hj => hgood j (List.mem_cons_of_mem _ hj))
        (fun j hj => hgood' j (List.mem_cons_of_mem _ hj)) ht₁ ht₁' hrest
      exact ⟨rfl, rfl⟩

end Series

/-! ## Records -/

/-- Fields that take values only. -/
def Valued (fields : List FieldText) : Prop := ∀ f ∈ fields, ∀ v, f.Value v → IsValue v

/-- Two fields that have a value in common. -/
def Meet (f f' : FieldText) : Prop := ∃ v, f.Value v ∧ f'.Value v

variable {fields fields' : List FieldText} {t t' r r' : List Char}

theorem isValue_of_forall₂ {vs : List (List Char)} (hvalued : Valued fields)
    (h : List.Forall₂ (fun f v => f.Value v) fields vs) : ∀ v ∈ vs, IsValue v := by
  induction h with
  | nil => simp
  | @cons f v fields vs hv _ ih =>
    obtain ⟨hf, hfields⟩ := List.forall_mem_cons.mp hvalued
    exact List.forall_mem_cons.mpr ⟨hf v hv, ih hfields⟩

theorem ArrayText.meet (hvalued : Valued fields) (hvalued' : Valued fields')
    (ht : ArrayText fields t) (ht' : ArrayText fields' t') (h : t ++ r = t' ++ r') :
    List.Forall₂ Meet fields fields' := by
  obtain ⟨vs, s, hs, rfl, hvs⟩ := ht
  obtain ⟨vs', s', hs', rfl, hvs'⟩ := ht'
  obtain ⟨rfl, -⟩ := Series.append_inj selfEnding_elementText (.inl rfl)
    (isValue_of_forall₂ hvalued hvs) (isValue_of_forall₂ hvalued' hvs') hs hs' (List.cons.inj h).2
  clear hs hs' h hvalued hvalued'
  induction hvs generalizing fields' with
  | nil =>
    cases hvs'
    exact .nil
  | @cons f v fields vs hv _ ih =>
    cases hvs' with
    | cons hv' hrest => exact .cons ⟨v, hv, hv'⟩ (ih hrest)

theorem ObjectText.isValue {ms : List (List Char × List Char)} (hvalued : Valued fields)
    (hfields : ∀ f ∈ fields,
      ∃ v, (ms.filter fun m => m.1 = f.name.toList) = [(f.name.toList, v)] ∧ f.Value v)
    (hother : ∀ m ∈ ms, (∀ f ∈ fields, m.1 ≠ f.name.toList) → IsValue m.2) :
    ∀ m ∈ ms, IsValue m.2 := by
  intro m hm
  by_cases hname : ∀ f ∈ fields, m.1 ≠ f.name.toList
  · exact hother m hm hname
  · simp only [not_forall, ne_eq, not_not] at hname
    obtain ⟨f, hf, hname⟩ := hname
    obtain ⟨v, hone, hv⟩ := hfields f hf
    have hmem : m ∈ ms.filter fun m => m.1 = f.name.toList :=
      List.mem_filter.mpr ⟨hm, decide_eq_true hname⟩
    rw [hone, List.mem_singleton] at hmem
    exact hmem ▸ hvalued f hf v hv

theorem ObjectText.meet (hvalued : Valued fields) (hvalued' : Valued fields')
    (hnames : List.Forall₂ (fun f f' => f.name = f'.name) fields fields')
    (ht : ObjectText fields t) (ht' : ObjectText fields' t') (h : t ++ r = t' ++ r') :
    List.Forall₂ Meet fields fields' := by
  obtain ⟨ms, s, hs, rfl, hfields, hother⟩ := ht
  obtain ⟨ms', s', hs', rfl, hfields', hother'⟩ := ht'
  obtain ⟨rfl, -⟩ := Series.append_inj selfEnding_memberText (.inr rfl)
    (ObjectText.isValue hvalued hfields hother) (ObjectText.isValue hvalued' hfields' hother')
    hs hs' (List.cons.inj h).2
  clear hs hs' h hvalued hvalued' hother hother'
  induction hnames with
  | nil => exact .nil
  | @cons f f' fields fields' hname _ ih =>
    obtain ⟨⟨v, hone, hv⟩, hfields⟩ := List.forall_mem_cons.mp hfields
    obtain ⟨⟨v', hone', hv'⟩, hfields'⟩ := List.forall_mem_cons.mp hfields'
    -- both fields are named by the one member of that name
    rw [← hname, hone] at hone'
    obtain rfl := (Prod.mk.inj (List.cons.inj hone').1).2
    exact .cons ⟨v, hv, hv'⟩ (ih hfields hfields')

/-- **A text is a record in one way.** When it is one with these fields and one with those, the
fields of each name have the value in common that stands there. -/
theorem RecordText.meet {s : List Char} (hvalued : Valued fields) (hvalued' : Valued fields')
    (hnames : List.Forall₂ (fun f f' => f.name = f'.name) fields fields')
    (h : RecordText fields s) (h' : RecordText fields' s) : List.Forall₂ Meet fields fields' := by
  obtain ⟨w, t, r, hw, -, ht, rfl⟩ := h
  obtain ⟨w', t', r', hw', -, ht', heq⟩ := h'
  rcases ht with ht | ht <;> rcases ht' with ht' | ht'
  all_goals
    obtain ⟨-, s, -, rfl, -⟩ := id ht
    obtain ⟨-, s', -, rfl, -⟩ := id ht'
    obtain ⟨hopen, hrest⟩ := hw.append_cons_inj hw' (by decide) (by decide) heq
  · exact ht.meet hvalued hvalued' ht' (congrArg ('[' :: ·) hrest)
  · exact absurd hopen (by decide)
  · exact absurd hopen (by decide)
  · exact ht.meet hvalued hvalued' hnames ht' (congrArg ('{' :: ·) hrest)

/-- A field that takes the values of another of its name. -/
def Widens (f f' : FieldText) : Prop := f.name = f'.name ∧ ∀ v, f.Value v → f'.Value v

theorem ArrayText.mono (hfields : List.Forall₂ Widens fields fields')
    (h : ArrayText fields t) : ArrayText fields' t := by
  obtain ⟨vs, s, hs, rfl, hvs⟩ := h
  refine ⟨vs, s, hs, rfl, ?_⟩
  clear hs
  induction hfields generalizing vs with
  | nil => exact hvs
  | cons hf _ ih =>
    cases hvs with
    | cons hv hrest => exact .cons (hf.2 _ hv) (ih _ hrest)

theorem ObjectText.mono (hfields : List.Forall₂ Widens fields fields')
    (h : ObjectText fields t) : ObjectText fields' t := by
  obtain ⟨ms, s, hs, rfl, hvalues, hother⟩ := h
  refine ⟨ms, s, hs, rfl, ?_, fun m hm hnone => hother m hm ?_⟩
  · clear hother
    induction hfields with
    | nil => simp
    | cons hf _ ih =>
      obtain ⟨⟨v, hone, hv⟩, hvalues⟩ := List.forall_mem_cons.mp hvalues
      exact List.forall_mem_cons.mpr ⟨⟨v, hf.1 ▸ hone, hf.2 v hv⟩, ih hvalues⟩
  · clear hother hvalues
    induction hfields with
    | nil => simp
    | cons hf _ ih =>
      obtain ⟨hne, hnone⟩ := List.forall_mem_cons.mp hnone
      exact List.forall_mem_cons.mpr ⟨hf.1 ▸ hne, ih hnone⟩

/-- A record stays one when its fields take more values. -/
theorem RecordText.mono {s : List Char} (hfields : List.Forall₂ Widens fields fields')
    (h : RecordText fields s) : RecordText fields' s := by
  obtain ⟨w, t, w', hw, hw', ht, rfl⟩ := h
  exact ⟨w, t, w', hw, hw', ht.imp (·.mono hfields) (·.mono hfields), rfl⟩

end UserDirectory.Json
