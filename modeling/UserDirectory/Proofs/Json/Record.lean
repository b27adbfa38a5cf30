import Mathlib.Data.List.Forall2
import Mathlib.Data.List.Nodup
import UserDirectory.Json.Record
import UserDirectory.Proofs.Json.Skip

/-!
# The grammar of records

A record is written as an array of the values of its fields, in order, or as an object in which
each field is named exactly once, in any order, among members of other names (`RecordText`).

## Slots

A reader fills a draft. `Slot` says which part of the draft a field fills, what the field is in a
finished record, and how its values are written; `Shape.Lawful` collects what the slots of a shape
have to satisfy. Of every lawful shape it holds that reading accepts exactly the texts of the
grammar (`Shape.read_eq_ok_iff`).
-/

namespace UserDirectory.Json

/-! ## Grammar -/

/-- Items with commas between them and blanks around them, up to the mark that closes the bracket.
The flag tells whether the bracket has just been opened. -/
inductive Series {ι : Type} (item : ι → List Char → Prop) (close : Char) :
    Bool → List ι → List Char → Prop where
  | close {isFirst : Bool} {w : List Char} : Blanks w → Series item close isFirst [] (w ++ [close])
  | first {i : ι} {is : List ι} {w s t : List Char} : Blanks w → item i s →
      Series item close false is t → Series item close true (i :: is) (w ++ (s ++ t))
  | next {i : ι} {is : List ι} {w w' s t : List Char} : Blanks w → Blanks w' → item i s →
      Series item close false is t →
      Series item close false (i :: is) (w ++ ',' :: (w' ++ (s ++ t)))

/-- An item of an array is the text of a value. -/
def ElementText (v s : List Char) : Prop := s = v

/-- A member of an object is a key, a colon and the text of a value. The key is the one spelled. -/
def MemberText (m : List Char × List Char) (s : List Char) : Prop :=
  ∃ b w w', Spells b m.1 ∧ Blanks w ∧ Blanks w' ∧
    s = '"' :: (b ++ '"' :: (w ++ ':' :: (w' ++ m.2)))

/-- The name of a field, and the texts that may stand for its value. -/
structure FieldText where
  name : String
  Value : List Char → Prop

/-- An array of the values of the fields, in order. -/
def ArrayText (fields : List FieldText) (t : List Char) : Prop :=
  ∃ vs s, Series ElementText ']' true vs s ∧ t = '[' :: s ∧
    List.Forall₂ (fun f v => f.Value v) fields vs

/-- An object in which every field is named exactly once, and every other member has some value. -/
def ObjectText (fields : List FieldText) (t : List Char) : Prop :=
  ∃ ms s, Series MemberText '}' true ms s ∧ t = '{' :: s ∧
    (∀ f ∈ fields, ∃ v, (ms.filter fun m => m.1 = f.name.toList) = [(f.name.toList, v)] ∧
      f.Value v) ∧
    ∀ m ∈ ms, (∀ f ∈ fields, m.1 ≠ f.name.toList) → IsValue m.2

/-- A record in either form, with blanks around it. -/
def RecordText (fields : List FieldText) (s : List Char) : Prop :=
  ∃ w t w', Blanks w ∧ Blanks w' ∧ (ArrayText fields t ∨ ObjectText fields t) ∧ s = w ++ (t ++ w')

/-! ## Series -/

/-- A number does not go on with the rest of a series. -/
theorem Series.delimited {ι : Type} {item : ι → List Char → Prop} {close : Char} {is : List ι}
    {s : List Char} (h : Series item close false is s) (hc : close = ']' ∨ close = '}')
    (r : List Char) : Delimited (s ++ r) := by
  cases h with
  | close hw =>
    rw [List.append_assoc]
    exact delimited_blanks_cons hw (.inr hc)
  | next hw _ _ _ =>
    rw [List.append_assoc]
    exact delimited_blanks_cons hw (.inl rfl)

theorem Series.eq_of_nil {ι : Type} {item : ι → List Char → Prop} {close : Char} {isFirst : Bool}
    {s : List Char} (h : Series item close isFirst [] s) : ∃ w, Blanks w ∧ s = w ++ [close] := by
  cases h with
  | close hw => exact ⟨_, hw, rfl⟩

/-- What stands before an item: blanks, after another item with a comma among them. -/
def ItemLead : Bool → List Char → Prop
  | true, p => Blanks p
  | false, p => ∃ w w', Blanks w ∧ Blanks w' ∧ p = w ++ ',' :: w'

theorem ItemLead.append {isFirst : Bool} {p w : List Char} (hp : ItemLead isFirst p)
    (hw : Blanks w) : ItemLead isFirst (p ++ w) := by
  cases isFirst with
  | true => exact Blanks.append hp hw
  | false =>
    obtain ⟨w₁, w₂, h₁, h₂, rfl⟩ := hp
    exact ⟨w₁, w₂ ++ w, h₁, h₂.append hw, by simp⟩

/-- An item and the series after it are a series. -/
theorem Series.cons {ι : Type} {item : ι → List Char → Prop} {close : Char} {isFirst : Bool}
    {i : ι} {is : List ι} {p s t : List Char} (hp : ItemLead isFirst p) (hi : item i s)
    (ht : Series item close false is t) :
    Series item close isFirst (i :: is) (p ++ (s ++ t)) := by
  cases isFirst with
  | true => exact .first hp hi ht
  | false =>
    obtain ⟨w, w', hw, hw', rfl⟩ := hp
    rw [List.append_assoc, List.cons_append]
    exact .next hw hw' hi ht

/-- A series begins with a lead and its first item. -/
theorem Series.exists_lead {ι : Type} {item : ι → List Char → Prop} {close : Char} {isFirst : Bool}
    {i : ι} {is : List ι} {s : List Char} (h : Series item close isFirst (i :: is) s) :
    ∃ p s' t, ItemLead isFirst p ∧ item i s' ∧ Series item close false is t ∧
      s = p ++ (s' ++ t) := by
  cases h with
  | @first _ _ w s' t hw hi ht => exact ⟨w, s', t, hw, hi, ht, rfl⟩
  | @next _ _ w w' s' t hw hw' hi ht =>
    exact ⟨w ++ ',' :: w', s', t, ⟨w, w', hw, hw', rfl⟩, hi, ht, by simp⟩

/-! ## Slots -/

/-- The part of a draft that a field fills, and how it is written. -/
structure Slot (δ α : Type) where
  field : Field δ
  Content : Type
  get : δ → Option Content
  set : Content → δ → δ
  /-- The field of a finished record. -/
  ofRecord : α → Content
  /-- How a value is written. -/
  Written : Content → List Char → Prop

variable {δ α β : Type}

/-- The characters of the field's name. -/
def Slot.key (k : Slot δ α) : List Char := k.field.name.toList

/-- How the field of a record is written. -/
def Slot.text (u : α) (k : Slot δ α) : FieldText := ⟨k.field.name, k.Written (k.ofRecord u)⟩

/-- A reader that takes blanks and exactly what is written for a value. -/
structure ReadsExactly (read : List Char → Except Error (β × List Char))
    (Written : β → List Char → Prop) : Prop where
  sound : ∀ {s r : List Char} {x : β}, read s = .ok (x, r) →
    ∃ w v, Blanks w ∧ Written x v ∧ s = w ++ (v ++ r)
  complete : ∀ {w v r : List Char} {x : β}, Blanks w → Written x v → Delimited r →
    read (w ++ (v ++ r)) = .ok (x, r)
  starts : ∀ {v : List Char} {x : β}, Written x v → ∃ c s, v = c :: s ∧ StartsValue c

/-- The field of the slot reads exactly what is written for its values and fills the slot. -/
structure Slot.Exact (k : Slot δ α) : Prop where
  filled_eq : ∀ d, k.field.filled d = (k.get d).isSome
  sound : ∀ {s r : List Char} {fill : δ → δ}, k.field.read s = .ok (fill, r) →
    ∃ w v x, Blanks w ∧ k.Written x v ∧ fill = k.set x ∧ s = w ++ (v ++ r)
  complete : ∀ {w v r : List Char} {x : k.Content}, Blanks w → k.Written x v → Delimited r →
    k.field.read (w ++ (v ++ r)) = .ok (k.set x, r)
  starts : ∀ {v : List Char} {x : k.Content}, k.Written x v → ∃ c s, v = c :: s ∧ StartsValue c

/-- What the slots of a shape satisfy. -/
structure Shape.Lawful (shape : Shape δ α) (slots : List (Slot δ α)) : Prop where
  fields_eq : shape.fields = slots.map Slot.field
  names : (slots.map Slot.key).Nodup
  exact : ∀ k ∈ slots, k.Exact
  get_blank : ∀ k ∈ slots, k.get shape.blank = none
  get_set : ∀ k ∈ slots, ∀ x d, k.get (k.set x d) = some x
  get_set_ne : ∀ k ∈ slots, ∀ k' ∈ slots, k.key ≠ k'.key → ∀ x d, k.get (k'.set x d) = k.get d
  /-- A draft is finished when every slot holds the field of the record. -/
  finish_iff : ∀ d u, shape.finish d = .ok u ↔ ∀ k ∈ slots, k.get d = some (k.ofRecord u)

/-- The slot of a field whose reader is exact. -/
def Slot.of (name : String) (get : δ → Option β) (set : β → δ → δ) (ofRecord : α → β)
    (read : List Char → Except Error (β × List Char))
    (read_length : ∀ {s r : List Char} {b : β}, read s = .ok (b, r) → r.length < s.length)
    (Written : β → List Char → Prop) : Slot δ α where
  field := .of name (fun d => (get d).isSome) set read read_length
  Content := β
  get := get
  set := set
  ofRecord := ofRecord
  Written := Written

theorem Slot.of_exact {name : String} {get : δ → Option β} {set : β → δ → δ} {ofRecord : α → β}
    {read : List Char → Except Error (β × List Char)}
    {read_length : ∀ {s r : List Char} {b : β}, read s = .ok (b, r) → r.length < s.length}
    {Written : β → List Char → Prop} (h : ReadsExactly read Written) :
    (Slot.of name get set ofRecord read read_length Written).Exact where
  filled_eq d := rfl
  sound {s r fill} hr := by
    simp only [Slot.of, Field.of] at hr
    split at hr
    · simp at hr
    · next x r' hx =>
      obtain ⟨rfl, rfl⟩ := Prod.mk.inj (Except.ok.inj hr)
      obtain ⟨w, v, hw, hv, hs⟩ := h.sound hx
      exact ⟨w, v, x, hw, hv, rfl, hs⟩
  complete {w v r x} hw hv hr := by
    simp only [Slot.of, Field.of, h.complete hw hv hr]
  starts hv := h.starts hv

section Lawful

variable {shape : Shape δ α} {slots : List (Slot δ α)}

/-! ## Arrays -/

theorem closeArray_eq_ok_iff {s r : List Char} :
    closeArray s = .ok r ↔ ∃ w, Blanks w ∧ s = w ++ ']' :: r := by
  constructor
  · intro h
    unfold closeArray at h
    split at h
    · simp at h
    · next c s' hb =>
      obtain ⟨w, hw, rfl⟩ := exists_blanks_of_skipBlanks hb
      split at h
      · next hc =>
        obtain rfl := Except.ok.inj h
        exact ⟨w, hw, by rw [hc]⟩
      · simp at h
  · rintro ⟨w, hw, rfl⟩
    rw [closeArray, skipBlanks_append hw (by decide)]
    rfl

theorem exists_lead_of_nextItem {isFirst : Bool} {s s' : List Char}
    (h : nextItem isFirst s = .ok (some s')) : ∃ p, ItemLead isFirst p ∧ s = p ++ s' := by
  unfold nextItem at h
  split at h
  · simp at h
  · next c r hb =>
    obtain ⟨w, hw, rfl⟩ := exists_blanks_of_skipBlanks hb
    split at h
    · simp at h
    · split at h
      · next hf =>
        obtain rfl := Option.some.inj (Except.ok.inj h)
        exact ⟨w, hf ▸ hw, rfl⟩
      · next hf =>
        split at h
        · next hc =>
          split at h
          · simp at h
          · next d r' hb' =>
            obtain ⟨w', hw', rfl⟩ := exists_blanks_of_skipBlanks hb'
            split at h
            · simp at h
            · obtain rfl := Option.some.inj (Except.ok.inj h)
              refine ⟨w ++ ',' :: w', ?_, by rw [hc]; simp⟩
              rw [Bool.not_eq_true] at hf
              exact hf ▸ ⟨w, w', hw, hw', rfl⟩
        · simp at h

theorem nextItem_eq_ok {isFirst : Bool} {p s : List Char} {c : Char} (hp : ItemLead isFirst p)
    (hc : StartsValue c) : nextItem isFirst (p ++ c :: s) = .ok (some (c :: s)) := by
  cases isFirst with
  | true =>
    rw [nextItem, skipBlanks_append hp hc.1]
    exact (if_neg hc.2.2.1).trans (if_pos rfl)
  | false =>
    obtain ⟨w, w', hw, hw', rfl⟩ := hp
    rw [nextItem, List.append_assoc, List.cons_append, skipBlanks_append hw (by decide)]
    simp only [skipBlanks_append hw' hc.1, if_neg hc.2.2.1]
    rfl

/-- The draft with the fields of a record in the given slots. -/
def fillAll (u : α) (slots : List (Slot δ α)) (d : δ) : δ :=
  slots.foldl (fun d k => k.set (k.ofRecord u) d) d

theorem readItems_eq_ok (shape : Shape δ α) {u : α} {vs : List (List Char)} {r : List Char}
    (hexact : ∀ k ∈ slots, k.Exact)
    (hvs : List.Forall₂ (fun k v => k.Written (k.ofRecord u) v) slots vs) :
    ∀ (count : Nat) {t : List Char} (d : δ), Series ElementText ']' (count = 0) vs t →
      ∃ s, shape.readItems (slots.map Slot.field) count d (t ++ r) = .ok (fillAll u slots d, s) ∧
        closeArray s = .ok r := by
  induction hvs with
  | nil =>
    intro count t d ht
    obtain ⟨w, hw, rfl⟩ := ht.eq_of_nil
    exact ⟨_, rfl, closeArray_eq_ok_iff.mpr ⟨w, hw, by simp⟩⟩
  | @cons k v slots vs hv _ ih =>
    intro count t d ht
    obtain ⟨p, _, t', hp, rfl, ht', rfl⟩ := ht.exists_lead
    obtain ⟨c, v', rfl, hc⟩ := (hexact k List.mem_cons_self).starts hv
    have hnext : nextItem (count = 0) (p ++ (c :: v' ++ t') ++ r)
        = .ok (some ([] ++ (c :: v' ++ (t' ++ r)))) := by
      have hs : p ++ (c :: v' ++ t') ++ r = p ++ c :: (v' ++ (t' ++ r)) := by simp
      rw [hs]
      exact nextItem_eq_ok hp hc
    have hread := (hexact k List.mem_cons_self).complete (.nil) hv (ht'.delimited (.inl rfl) r)
    obtain ⟨s, hs, hclose⟩ := ih (fun k hk => hexact k (List.mem_cons_of_mem _ hk)) (count + 1)
      (k.set (k.ofRecord u) d) ht'
    refine ⟨s, ?_, hclose⟩
    rw [List.map_cons, Shape.readItems, hnext]
    simp only [hread]
    exact hs

/-- The values of the slots that have been read from an array stand in the draft. -/
theorem Shape.Lawful.series_of_readItems (lawful : shape.Lawful slots) {ks : List (Slot δ α)}
    (hks : ks ⊆ slots) (hnodup : (ks.map Slot.key).Nodup) {count : Nat} {d d' : δ}
    {s s' r : List Char} (h : shape.readItems (ks.map Slot.field) count d s = .ok (d', s'))
    (hclose : closeArray s' = .ok r) :
    (∃ vs t, Series ElementText ']' (count = 0) vs t ∧ s = t ++ r ∧
      List.Forall₂ (fun k v => ∃ x, k.Written x v ∧ k.get d' = some x) ks vs) ∧
    ∀ k ∈ slots, k.key ∉ ks.map Slot.key → k.get d' = k.get d := by
  induction ks generalizing count d s with
  | nil =>
    obtain ⟨rfl, rfl⟩ := Prod.mk.inj (Except.ok.inj h)
    obtain ⟨w, hw, rfl⟩ := closeArray_eq_ok_iff.mp hclose
    exact ⟨⟨[], w ++ [']'], .close hw, by simp, .nil⟩, fun _ _ _ => rfl⟩
  | cons k ks ih =>
    rw [List.map_cons, List.nodup_cons] at hnodup
    have hk := hks List.mem_cons_self
    rw [List.map_cons, Shape.readItems] at h
    split at h
    · simp at h
    · simp at h
    · next s₁ hnext =>
      split at h
      · simp at h
      · next fill s₂ hread =>
        obtain ⟨p, hp, rfl⟩ := exists_lead_of_nextItem hnext
        obtain ⟨w, v, x, hw, hv, rfl, rfl⟩ := (lawful.exact k hk).sound hread
        obtain ⟨⟨vs, t, ht, rfl, hvs⟩, hframe⟩ :=
          ih (fun _ h => hks (List.mem_cons_of_mem _ h)) hnodup.2 h
        -- the fields that are read later have other names and leave the slot as it is
        have hget : k.get d' = some x := by
          rw [hframe k hk hnodup.1, lawful.get_set k hk]
        refine ⟨⟨v :: vs, p ++ w ++ (v ++ t), ?_, by simp, .cons ⟨x, hv, hget⟩ hvs⟩, ?_⟩
        · exact Series.cons (hp.append hw) rfl ht
        · intro k' hk' hne
          rw [List.map_cons, List.mem_cons, not_or] at hne
          rw [hframe k' hk' hne.2, lawful.get_set_ne k' hk' k hk hne.1]

/-- A slot keeps its content while others are filled. -/
theorem Shape.Lawful.get_fillAll_of_notMem (lawful : shape.Lawful slots) (u : α)
    {ks : List (Slot δ α)} (hks : ks ⊆ slots) {k : Slot δ α} (hk : k ∈ slots)
    (hne : k.key ∉ ks.map Slot.key) (d : δ) : k.get (fillAll u ks d) = k.get d := by
  induction ks generalizing d with
  | nil => rfl
  | cons k' ks ih =>
    rw [List.map_cons, List.mem_cons, not_or] at hne
    show k.get (fillAll u ks (k'.set (k'.ofRecord u) d)) = _
    rw [ih (fun _ h => hks (List.mem_cons_of_mem _ h)) hne.2,
      lawful.get_set_ne k hk k' (hks List.mem_cons_self) hne.1]

/-- A slot that has been filled holds the field of the record. -/
theorem Shape.Lawful.get_fillAll (lawful : shape.Lawful slots) (u : α) {ks : List (Slot δ α)}
    (hks : ks ⊆ slots) (hnodup : (ks.map Slot.key).Nodup) {k : Slot δ α} (hk : k ∈ ks) (d : δ) :
    k.get (fillAll u ks d) = some (k.ofRecord u) := by
  induction ks generalizing d with
  | nil => cases hk
  | cons k' ks ih =>
    rw [List.map_cons, List.nodup_cons] at hnodup
    have hsub : ks ⊆ slots := fun _ h => hks (List.mem_cons_of_mem _ h)
    show k.get (fillAll u ks (k'.set (k'.ofRecord u) d)) = _
    rcases List.mem_cons.mp hk with rfl | hk
    · have hmem := hks List.mem_cons_self
      rw [lawful.get_fillAll_of_notMem u hsub hmem hnodup.1, lawful.get_set k hmem]
    · exact ih hsub hnodup.2 hk _

/-- The values in a draft are those of the record it is finished to. -/
theorem forall₂_written {d : δ} {u : α} {ks : List (Slot δ α)} {vs : List (List Char)}
    (h : List.Forall₂ (fun k v => ∃ x, k.Written x v ∧ k.get d = some x) ks vs)
    (hget : ∀ k ∈ ks, k.get d = some (k.ofRecord u)) :
    List.Forall₂ (fun k v => k.Written (k.ofRecord u) v) ks vs := by
  induction h with
  | nil => exact .nil
  | @cons k v ks vs hv _ ih =>
    obtain ⟨x, hx, hgx⟩ := hv
    obtain rfl : x = k.ofRecord u := by simpa [hgx] using hget k List.mem_cons_self
    exact .cons hx (ih fun k hk => hget k (List.mem_cons_of_mem _ hk))

/-- **An array is read exactly as the grammar has it.** -/
theorem Shape.Lawful.readArray_eq_ok_iff (lawful : shape.Lawful slots) {u : α} {s r : List Char} :
    shape.readArray s = .ok (u, r) ↔
      ∃ t, ArrayText (slots.map (Slot.text u)) ('[' :: t) ∧ s = t ++ r := by
  constructor
  · intro h
    unfold Shape.readArray at h
    split at h
    · simp at h
    · next d s' hitems =>
      split at h
      · simp at h
      · next u' hfinish =>
        split at h
        · simp at h
        · next r' hclose =>
          obtain ⟨rfl, rfl⟩ := Prod.mk.inj (Except.ok.inj h)
          rw [lawful.fields_eq] at hitems
          obtain ⟨⟨vs, t, ht, rfl, hvs⟩, -⟩ :=
            lawful.series_of_readItems (List.Subset.refl _) lawful.names hitems hclose
          refine ⟨t, ⟨vs, t, ht, rfl, ?_⟩, rfl⟩
          rw [List.forall₂_map_left_iff]
          exact forall₂_written hvs ((lawful.finish_iff d u').mp hfinish)
  · rintro ⟨t, ⟨vs, s', hseries, hs', hvs⟩, rfl⟩
    obtain rfl := (List.cons.inj hs').2
    rw [List.forall₂_map_left_iff] at hvs
    obtain ⟨s, hitems, hclose⟩ :=
      readItems_eq_ok shape (r := r) lawful.exact hvs 0 shape.blank hseries
    have hfinish : shape.finish (fillAll u slots shape.blank) = .ok u :=
      (lawful.finish_iff _ u).mpr fun k hk =>
        lawful.get_fillAll u (List.Subset.refl _) lawful.names hk shape.blank
    rw [Shape.readArray, lawful.fields_eq, hitems]
    simp only [hfinish, hclose]

/-! ## Members -/

theorem nextMember_eq_close_iff {isFirst : Bool} {s r : List Char} :
    nextMember isFirst s = .ok (.close r) ↔ ∃ w, Blanks w ∧ s = w ++ '}' :: r := by
  constructor
  · intro h
    unfold nextMember at h
    split at h
    · simp at h
    · next c s' hb =>
      obtain ⟨w, hw, rfl⟩ := exists_blanks_of_skipBlanks hb
      split at h
      · next hc =>
        obtain rfl := Member.close.inj (Except.ok.inj h)
        exact ⟨w, hw, by rw [hc]⟩
      · split at h
        · split at h <;> simp at h
        · split at h
          · split at h
            · simp at h
            · split at h <;> simp at h
          · simp at h
  · rintro ⟨w, hw, rfl⟩
    rw [nextMember, skipBlanks_append hw (by decide)]
    rfl

theorem nextMember_eq_key_iff {isFirst : Bool} {s r : List Char} :
    nextMember isFirst s = .ok (.key r) ↔ ∃ p, ItemLead isFirst p ∧ s = p ++ '"' :: r := by
  constructor
  · intro h
    unfold nextMember at h
    split at h
    · simp at h
    · next c s' hb =>
      obtain ⟨w, hw, rfl⟩ := exists_blanks_of_skipBlanks hb
      split at h
      · simp at h
      · split at h
        · next hf =>
          split at h
          · next hc =>
            obtain rfl := Member.key.inj (Except.ok.inj h)
            exact ⟨w, hf ▸ hw, by rw [hc]⟩
          · simp at h
        · next hf =>
          rw [Bool.not_eq_true] at hf
          split at h
          · next hc =>
            split at h
            · simp at h
            · next d r' hb' =>
              obtain ⟨w', hw', rfl⟩ := exists_blanks_of_skipBlanks hb'
              split at h
              · next hd =>
                obtain rfl := Member.key.inj (Except.ok.inj h)
                exact ⟨w ++ ',' :: w', hf ▸ ⟨w, w', hw, hw', rfl⟩, by rw [hc, hd]; simp⟩
              · simp at h
          · simp at h
  · rintro ⟨p, hp, rfl⟩
    cases isFirst with
    | true =>
      rw [nextMember, skipBlanks_append hp (by decide)]
      rfl
    | false =>
      obtain ⟨w, w', hw, hw', rfl⟩ := hp
      rw [nextMember, List.append_assoc, List.cons_append, skipBlanks_append hw (by decide)]
      simp only [skipBlanks_append hw' (by decide : isBlank '"' = false)]
      rfl

theorem Shape.Lawful.exists_slot (lawful : shape.Lawful slots) {name : List Char} {f : Field δ}
    (h : shape.field? name = some f) : ∃ k ∈ slots, k.key = name ∧ k.field = f := by
  unfold Shape.field? at h
  rw [lawful.fields_eq] at h
  obtain ⟨k, hk, rfl⟩ := List.mem_map.mp (List.mem_of_find?_eq_some h)
  have hname := List.find?_some h
  exact ⟨k, hk, of_decide_eq_true hname, rfl⟩

theorem Shape.Lawful.field?_eq_none_iff (lawful : shape.Lawful slots) {name : List Char} :
    shape.field? name = none ↔ ∀ k ∈ slots, name ≠ k.key := by
  unfold Shape.field?
  rw [lawful.fields_eq, List.find?_eq_none, List.forall_mem_map]
  constructor
  · intro h k hk hname
    exact h k hk (decide_eq_true hname.symm)
  · intro h k hk hname
    exact h k hk (of_decide_eq_true hname).symm

/-- Under the name of a slot its field is found. -/
theorem Shape.Lawful.field?_key (lawful : shape.Lawful slots) {k : Slot δ α} (hk : k ∈ slots) :
    shape.field? k.key = some k.field := by
  cases hf : shape.field? k.key with
  | none => exact absurd rfl (lawful.field?_eq_none_iff.mp hf k hk)
  | some f =>
    obtain ⟨k', hk', hkey, rfl⟩ := lawful.exists_slot hf
    rw [List.inj_on_of_nodup_map lawful.names hk' hk hkey]

/-- What a member makes of a draft: a field that was open is filled, any other name changes
nothing. -/
inductive Change (slots : List (Slot δ α)) (d : δ) : List Char × List Char → δ → Prop where
  | known {k : Slot δ α} {x : k.Content} {v : List Char} : k ∈ slots → k.get d = none →
      k.Written x v → Change slots d (k.key, v) (k.set x d)
  | other {name v : List Char} : (∀ k ∈ slots, name ≠ k.key) → IsValue v →
      Change slots d (name, v) d

/-- What members make of a draft, one after the other. -/
inductive Changes (slots : List (Slot δ α)) : δ → List (List Char × List Char) → δ → Prop where
  | nil {d : δ} : Changes slots d [] d
  | cons {d d₁ d₂ : δ} {m : List Char × List Char} {ms : List (List Char × List Char)} :
      Change slots d m d₁ → Changes slots d₁ ms d₂ → Changes slots d (m :: ms) d₂

theorem Shape.Lawful.change_of_readMember (lawful : shape.Lawful slots) {d : δ} {fill : δ → δ}
    {s r : List Char} (h : shape.readMember d s = .ok (fill, r)) :
    ∃ b w w' m, Spells b m.1 ∧ Blanks w ∧ Blanks w' ∧ Change slots d m (fill d) ∧
      s = b ++ '"' :: (w ++ ':' :: (w' ++ (m.2 ++ r))) := by
  unfold Shape.readMember at h
  split at h
  · simp at h
  · next name s₁ hname =>
    obtain ⟨b, hb, rfl⟩ := readString_eq_ok_iff.mp hname
    split at h
    · next f hf =>
      obtain ⟨k, hk, rfl, rfl⟩ := lawful.exists_slot hf
      split at h
      · simp at h
      · next hopen =>
        have hnone : k.get d = none := by
          simpa [(lawful.exact k hk).filled_eq] using hopen
        split at h
        · simp at h
        · next s₂ hcolon =>
          obtain ⟨w, hw, rfl⟩ := colon_eq_ok_iff.mp hcolon
          obtain ⟨w', v, x, hw', hv, rfl, rfl⟩ := (lawful.exact k hk).sound h
          exact ⟨b, w, w', (k.key, v), hb, hw, hw', .known hk hnone hv, rfl⟩
    · next hnone =>
      split at h
      · simp at h
      · next s₂ hcolon =>
        obtain ⟨w, hw, rfl⟩ := colon_eq_ok_iff.mp hcolon
        split at h
        · simp at h
        · next s₃ hskip =>
          obtain ⟨w', v, hw', hv, rfl⟩ := exists_value_of_skipValue hskip
          obtain ⟨rfl, rfl⟩ := Prod.mk.inj (Except.ok.inj h)
          exact ⟨b, w, w', (name, v), hb, hw, hw', .other (lawful.field?_eq_none_iff.mp hnone) hv,
            rfl⟩

/-- Under the name of an open slot the value of its field is read after the colon. -/
theorem Shape.Lawful.readMember_of_open (lawful : shape.Lawful slots) {k : Slot δ α} {d : δ}
    {b : List Char} (hk : k ∈ slots) (hopen : k.get d = none) (hb : Spells b k.key)
    (s : List Char) :
    shape.readMember d (b ++ '"' :: s) = (colon s).bind k.field.read := by
  have hfilled : ¬ k.field.filled d = true := by
    simp [(lawful.exact k hk).filled_eq, hopen]
  rw [Shape.readMember, readString_eq_ok_iff.mpr ⟨b, hb, rfl⟩]
  simp only [lawful.field?_key hk]
  refine (if_neg hfilled).trans ?_
  cases colon s with
  | error e => rfl
  | ok r => rfl

theorem Shape.Lawful.readMember_eq_ok (lawful : shape.Lawful slots) {d d' : δ}
    {m : List Char × List Char} {b w w' r : List Char} (hb : Spells b m.1) (hw : Blanks w)
    (hw' : Blanks w') (hm : Change slots d m d') (hr : Delimited r) :
    ∃ fill, shape.readMember d (b ++ '"' :: (w ++ ':' :: (w' ++ (m.2 ++ r)))) = .ok (fill, r) ∧
      fill d = d' := by
  have hcolon : colon (w ++ ':' :: (w' ++ (m.2 ++ r))) = .ok (w' ++ (m.2 ++ r)) :=
    colon_eq_ok_iff.mpr ⟨w, hw, rfl⟩
  cases hm with
  | @known k x v hk hnone hv =>
    refine ⟨k.set x, ?_, rfl⟩
    rw [lawful.readMember_of_open hk hnone hb, hcolon]
    exact (lawful.exact k hk).complete hw' hv hr
  | @other name v hother hv =>
    refine ⟨id, ?_, rfl⟩
    rw [Shape.readMember, readString_eq_ok_iff.mpr ⟨b, hb, rfl⟩]
    simp only [lawful.field?_eq_none_iff.mpr hother, hcolon, skipValue_eq_ok hw' hv hr]

/-! ## Objects -/

/-- After its lead a member is read, and its change is passed on to the members after it. -/
theorem Shape.readMembers_of_lead (shape : Shape δ α) {isFirst : Bool} {l : List Char}
    (hl : ItemLead isFirst l) (d : δ) (s : List Char) :
    shape.readMembers isFirst d (l ++ '"' :: s) =
      (shape.readMember d s).bind fun p => shape.readMembers false (p.1 d) p.2 := by
  rw [Shape.readMembers, nextMember_eq_key_iff.mpr ⟨l, hl, rfl⟩]
  simp only []
  cases shape.readMember d s with
  | error e => rfl
  | ok p => rfl

theorem Shape.Lawful.series_of_readMembers (lawful : shape.Lawful slots) {isFirst : Bool} {d d' : δ}
    {s r : List Char} (h : shape.readMembers isFirst d s = .ok (d', r)) :
    ∃ ms t, Series MemberText '}' isFirst ms t ∧ Changes slots d ms d' ∧ s = t ++ r := by
  induction hn : s.length using Nat.strongRecOn generalizing isFirst d s with
  | _ n ih =>
    rw [Shape.readMembers] at h
    split at h
    · simp at h
    · next hclose =>
      obtain ⟨rfl, rfl⟩ := Prod.mk.inj (Except.ok.inj h)
      obtain ⟨w, hw, rfl⟩ := nextMember_eq_close_iff.mp hclose
      exact ⟨[], w ++ ['}'], .close hw, .nil, by simp⟩
    · next s₁ hkey =>
      split at h
      · simp at h
      · next fill s₂ hmember =>
        have h₁ := nextMember_length hkey
        have h₂ := Shape.readMember_length hmember
        obtain ⟨p, hp, rfl⟩ := nextMember_eq_key_iff.mp hkey
        obtain ⟨b, w, w', m, hb, hw, hw', hm, rfl⟩ := lawful.change_of_readMember hmember
        obtain ⟨ms, t, ht, hms, rfl⟩ := ih _ (by omega) h rfl
        exact ⟨m :: ms, _, Series.cons hp ⟨b, w, w', hb, hw, hw', rfl⟩ ht, .cons hm hms, by simp⟩

/-- A member that changes the draft is read, and the rest is left to the members after it. -/
theorem Shape.Lawful.readMembers_cons (lawful : shape.Lawful slots) {isFirst : Bool} {d d' : δ}
    {m : List Char × List Char} {l s r : List Char} (hl : ItemLead isFirst l) (hs : MemberText m s)
    (hm : Change slots d m d') (hr : Delimited r) :
    shape.readMembers isFirst d (l ++ (s ++ r)) = shape.readMembers false d' r := by
  obtain ⟨b, w, w', hb, hw, hw', rfl⟩ := hs
  have htext : '"' :: (b ++ '"' :: (w ++ ':' :: (w' ++ m.2))) ++ r
      = '"' :: (b ++ '"' :: (w ++ ':' :: (w' ++ (m.2 ++ r)))) := by simp
  obtain ⟨fill, hread, rfl⟩ := lawful.readMember_eq_ok hb hw hw' hm hr
  rw [htext, shape.readMembers_of_lead hl, hread]
  rfl

theorem Shape.Lawful.readMembers_eq_ok (lawful : shape.Lawful slots)
    {ms : List (List Char × List Char)} {d d' : δ} (h : Changes slots d ms d') :
    ∀ {isFirst : Bool} {t r : List Char}, Series MemberText '}' isFirst ms t →
      shape.readMembers isFirst d (t ++ r) = .ok (d', r) := by
  induction h with
  | nil =>
    intro isFirst t r ht
    obtain ⟨w, hw, rfl⟩ := ht.eq_of_nil
    rw [Shape.readMembers, List.append_assoc, List.singleton_append,
      nextMember_eq_close_iff.mpr ⟨w, hw, rfl⟩]
  | cons hm _ ih =>
    intro isFirst t r ht
    obtain ⟨l, s, t', hl, hs, ht', rfl⟩ := ht.exists_lead
    rw [List.append_assoc, List.append_assoc,
      lawful.readMembers_cons hl hs hm (ht'.delimited (.inr rfl) r)]
    exact ih ht'

/-- What members of known and other names make of the slots: a slot that was open stays so when no
member names it, and else holds the value of the only one that does. -/
theorem Shape.Lawful.filter_of_changes (lawful : shape.Lawful slots)
    {ms : List (List Char × List Char)} {d d' : δ} (h : Changes slots d ms d') {k : Slot δ α}
    (hk : k ∈ slots) :
    (ms.filter (fun m => m.1 = k.key) = [] ∧ k.get d' = k.get d) ∨
      k.get d = none ∧ ∃ v x, ms.filter (fun m => m.1 = k.key) = [(k.key, v)] ∧ k.Written x v ∧
        k.get d' = some x := by
  induction h with
  | nil => exact .inl ⟨rfl, rfl⟩
  | @cons d d₁ d₂ m ms hm _ ih =>
    cases hm with
    | @known k' x v hk' hnone hv =>
      by_cases hkey : k'.key = k.key
      · obtain rfl := List.inj_on_of_nodup_map lawful.names hk' hk hkey
        have hset := lawful.get_set k' hk' x d
        rcases ih with ⟨hnil, hget⟩ | ⟨hopen, -⟩
        · refine .inr ⟨hnone, v, x, ?_, hv, hget.trans hset⟩
          rw [List.filter_cons_of_pos (by simp), hnil]
        · -- a second member of the name would have found the slot filled
          rw [hset] at hopen
          cases hopen
      · have hset := lawful.get_set_ne k hk k' hk' (Ne.symm hkey) x d
        rw [List.filter_cons_of_neg (by simpa using hkey)]
        rwa [hset] at ih
    | @other name v hother hv =>
      rw [List.filter_cons_of_neg (by simpa using hother k hk)]
      exact ih

theorem isValue_of_changes {ms : List (List Char × List Char)} {d d' : δ}
    (h : Changes slots d ms d') : ∀ m ∈ ms, (∀ k ∈ slots, m.1 ≠ k.key) → IsValue m.2 := by
  induction h with
  | nil =>
    intro m hm
    cases hm
  | cons hm _ ih =>
    intro m' hm' hother
    rcases List.mem_cons.mp hm' with rfl | hm'
    · cases hm with
      | known hk _ _ => exact absurd rfl (hother _ hk)
      | other _ hv => exact hv
    · exact ih m' hm' hother

/-- Members among which every open slot is named once, with the field of a record as its value, and
no other slot, fill the draft with the fields of the record. -/
theorem Shape.Lawful.exists_changes (lawful : shape.Lawful slots) {u : α}
    {ms : List (List Char × List Char)} {d : δ}
    (hslots : ∀ k ∈ slots,
      (ms.filter (fun m => m.1 = k.key) = [] ∧ k.get d = some (k.ofRecord u)) ∨
        k.get d = none ∧ ∃ v, ms.filter (fun m => m.1 = k.key) = [(k.key, v)] ∧
          k.Written (k.ofRecord u) v)
    (hother : ∀ m ∈ ms, (∀ k ∈ slots, m.1 ≠ k.key) → IsValue m.2) :
    ∃ d', Changes slots d ms d' ∧ ∀ k ∈ slots, k.get d' = some (k.ofRecord u) := by
  induction ms generalizing d with
  | nil =>
    refine ⟨d, .nil, fun k hk => ?_⟩
    rcases hslots k hk with ⟨-, hget⟩ | ⟨-, v, hv, -⟩
    · exact hget
    · cases hv
  | cons m ms ih =>
    have hother' : ∀ m ∈ ms, (∀ k ∈ slots, m.1 ≠ k.key) → IsValue m.2 :=
      fun m' hm' => hother m' (List.mem_cons_of_mem _ hm')
    by_cases hm : ∃ k ∈ slots, m.1 = k.key
    · obtain ⟨k, hk, hkey⟩ := hm
      have hpos : (m :: ms).filter (fun m => m.1 = k.key)
          = m :: ms.filter (fun m => m.1 = k.key) :=
        List.filter_cons_of_pos (decide_eq_true hkey)
      rcases hslots k hk with ⟨hnil, -⟩ | ⟨hnone, v, hv, hw⟩
      · rw [hpos] at hnil
        cases hnil
      · obtain ⟨rfl, hrest⟩ := List.cons.inj (hpos.symm.trans hv)
        -- the slot is filled now, and the slots of other names are as they were
        obtain ⟨d', hd', hget⟩ := ih (d := k.set (k.ofRecord u) d) (fun k' hk' => by
          by_cases hsame : k'.key = k.key
          · obtain rfl := List.inj_on_of_nodup_map lawful.names hk' hk hsame
            exact .inl ⟨hrest, lawful.get_set k' hk' _ d⟩
          · have := hslots k' hk'
            rw [List.filter_cons_of_neg (by simpa using Ne.symm hsame)] at this
            rwa [lawful.get_set_ne k' hk' k hk hsame]) hother'
        exact ⟨d', .cons (.known hk hnone hw) hd', hget⟩
    · have hne : ∀ k ∈ slots, m.1 ≠ k.key := fun k hk hkey => hm ⟨k, hk, hkey⟩
      obtain ⟨d', hd', hget⟩ := ih (d := d) (fun k hk => by
        have := hslots k hk
        rwa [List.filter_cons_of_neg (by simpa using hne k hk)] at this) hother'
      exact ⟨d', .cons (.other hne (hother m List.mem_cons_self hne)) hd', hget⟩

/-- **An object is read exactly as the grammar has it.** -/
theorem Shape.Lawful.readObject_eq_ok_iff (lawful : shape.Lawful slots) {u : α} {s r : List Char} :
    shape.readObject s = .ok (u, r) ↔
      ∃ t, ObjectText (slots.map (Slot.text u)) ('{' :: t) ∧ s = t ++ r := by
  constructor
  · intro h
    unfold Shape.readObject at h
    split at h
    · simp at h
    · next d s' hmembers =>
      split at h
      · simp at h
      · next u' hfinish =>
        obtain ⟨rfl, rfl⟩ := Prod.mk.inj (Except.ok.inj h)
        obtain ⟨ms, t, ht, hms, rfl⟩ := lawful.series_of_readMembers hmembers
        refine ⟨t, ⟨ms, t, ht, rfl, ?_, ?_⟩, rfl⟩
        · rw [List.forall_mem_map]
          intro k hk
          have hget := (lawful.finish_iff d u').mp hfinish k hk
          -- a slot that no member names would still be open, and the draft unfinished
          rcases lawful.filter_of_changes hms hk with ⟨-, hsame⟩ | ⟨-, v, x, hv, hx, hgx⟩
          · rw [lawful.get_blank k hk, hget] at hsame
            cases hsame
          · obtain rfl : x = k.ofRecord u' := by simpa [hgx] using hget
            exact ⟨v, hv, hx⟩
        · intro m hm hother
          rw [List.forall_mem_map] at hother
          exact isValue_of_changes hms m hm hother
  · rintro ⟨t, ⟨ms, s', hseries, hs', hfields, hother⟩, rfl⟩
    obtain rfl := (List.cons.inj hs').2
    rw [List.forall_mem_map] at hfields
    obtain ⟨d, hd, hget⟩ := lawful.exists_changes (u := u) (d := shape.blank)
      (fun k hk => .inr ⟨lawful.get_blank k hk, hfields k hk⟩)
      (fun m hm hne => hother m hm (List.forall_mem_map.mpr hne))
    rw [Shape.readObject, lawful.readMembers_eq_ok hd hseries]
    simp only [(lawful.finish_iff d u).mpr hget]

/-! ## Whole records -/

/-- A record is read up to where it ends, whatever follows. -/
theorem Shape.Lawful.readRecord_eq_ok (lawful : shape.Lawful slots) {u : α} {w t : List Char}
    (hw : Blanks w)
    (ht : ArrayText (slots.map (Slot.text u)) t ∨ ObjectText (slots.map (Slot.text u)) t)
    (r : List Char) : shape.readRecord (w ++ (t ++ r)) = .ok (u, r) := by
  rcases ht with ht | ht
  · obtain ⟨-, s, -, rfl, -⟩ := id ht
    rw [Shape.readRecord, List.cons_append, skipBlanks_append hw (by decide)]
    exact lawful.readArray_eq_ok_iff.mpr ⟨s, ht, rfl⟩
  · obtain ⟨-, s, -, rfl, -⟩ := id ht
    rw [Shape.readRecord, List.cons_append, skipBlanks_append hw (by decide)]
    exact lawful.readObject_eq_ok_iff.mpr ⟨s, ht, rfl⟩

/-- **Reading accepts exactly the texts of the grammar.** -/
theorem Shape.Lawful.read_eq_ok_iff (lawful : shape.Lawful slots) {u : α} {s : List Char} :
    shape.read s = .ok u ↔ RecordText (slots.map (Slot.text u)) s := by
  constructor
  · intro h
    unfold Shape.read at h
    split at h
    · simp at h
    · next u' s₁ hrecord =>
      split at h
      · next hend =>
        obtain rfl := Except.ok.inj h
        have hblanks : Blanks s₁ := by
          rw [List.isEmpty_iff, skipBlanks, List.dropWhile_eq_nil_iff] at hend
          exact hend
        unfold Shape.readRecord at hrecord
        split at hrecord
        · simp at hrecord
        · next c s₂ hb =>
          obtain ⟨w, hw, rfl⟩ := exists_blanks_of_skipBlanks hb
          split at hrecord
          · next hc =>
            obtain ⟨t, ht, rfl⟩ := lawful.readArray_eq_ok_iff.mp hrecord
            exact ⟨w, '[' :: t, s₁, hw, hblanks, .inl ht, by rw [hc]; rfl⟩
          · split at hrecord
            · next hc =>
              obtain ⟨t, ht, rfl⟩ := lawful.readObject_eq_ok_iff.mp hrecord
              exact ⟨w, '{' :: t, s₁, hw, hblanks, .inr ht, by rw [hc]; rfl⟩
            · simp at hrecord
      · simp at h
  · rintro ⟨w, t, w', hw, hw', ht, rfl⟩
    rw [Shape.read, lawful.readRecord_eq_ok hw ht]
    simp [skipBlanks_eq_nil hw']

end Lawful

end UserDirectory.Json
