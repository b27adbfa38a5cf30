import Mathlib.Data.List.Induction
import UserDirectory.Proofs.Json.Faults
import UserDirectory.Proofs.Records

/-!
# Which fault of a user is reported

An object can be wrong about a user in several places: it may name a field again, give a time that
is none, or leave fields out. `Verdict` says which of these is the answer, from the fields that are
named and their texts alone: the leftmost field that is faulty after those before it, and only if
there is none, the first field in the order of declaration that is missing.

There is always a verdict (`exists_verdict`), and reading gives it (`read_of_verdict`), so that there
is no more than one. The members of other names are not part of it.
-/

namespace UserDirectory.User

/-! ## Fields -/

/-- The names of the fields, in the order of their declaration. -/
def fieldNames : List String := ["id", "name", "email", "created_at"]

/-- The fields that the members of an object name, in the order of the text, each with the text
that its string literal spells. (Half of a surrogate pair spells nothing.) Members of other names
have values of any kind. -/
inductive Fields : List (List Char × List Char) → List (String × String) → Prop where
  | nil : Fields [] []
  | field {name text : String} {v : List Char} {ms : List (List Char × List Char)}
      {fields : List (String × String)} : name ∈ fieldNames → Json.StringText text.toList v →
      Fields ms fields → Fields ((name.toList, v) :: ms) ((name, text) :: fields)
  | other {key v : List Char} {ms : List (List Char × List Char)}
      {fields : List (String × String)} : (∀ name ∈ fieldNames, key ≠ name.toList) →
      Json.IsValue v → Fields ms fields → Fields ((key, v) :: ms) fields

theorem exists_fields {ms : List (List Char × List Char)}
    (hliterals : ∀ m ∈ ms, ∀ name ∈ fieldNames, m.1 = name.toList → ∃ x, Json.StringText x m.2)
    (hothers : ∀ m ∈ ms, (∀ name ∈ fieldNames, m.1 ≠ name.toList) → Json.IsValue m.2) :
    ∃ fields, Fields ms fields := by
  induction ms with
  | nil => exact ⟨[], .nil⟩
  | cons m ms ih =>
    rw [List.forall_mem_cons] at hliterals hothers
    obtain ⟨fields, hfields⟩ := ih hliterals.2 hothers.2
    by_cases hm : ∃ name ∈ fieldNames, m.1 = name.toList
    · obtain ⟨name, hname, hkey⟩ := hm
      obtain ⟨x, hx⟩ := hliterals.1 name hname hkey
      obtain ⟨key, v⟩ := m
      obtain rfl : key = name.toList := hkey
      exact ⟨(name, String.ofList x) :: fields,
        .field hname (by rwa [String.toList_ofList]) hfields⟩
    · have hother : ∀ name ∈ fieldNames, m.1 ≠ name.toList :=
        fun name hname hkey => hm ⟨name, hname, hkey⟩
      exact ⟨fields, .other hother (hothers.1 hother) hfields⟩

/-- A field among others has a member, and the fields before it are those of the members before. -/
theorem Fields.exists_member {ms : List (List Char × List Char)}
    {before after : List (String × String)} {f : String × String}
    (h : Fields ms (before ++ f :: after)) :
    ∃ ms₁ v ms₂, ms = ms₁ ++ (f.1.toList, v) :: ms₂ ∧ Fields ms₁ before ∧ f.1 ∈ fieldNames ∧
      Json.StringText f.2.toList v := by
  generalize hfields : before ++ f :: after = fields at h
  induction h generalizing before with
  | nil => simp at hfields
  | @field name text v ms fields hname hv hrest ih =>
    rcases List.append_eq_cons_iff.mp hfields with ⟨rfl, hf⟩ | ⟨before, rfl, hf⟩
    · obtain ⟨rfl, rfl⟩ := List.cons.inj hf
      exact ⟨[], v, ms, rfl, .nil, hname, hv⟩
    · obtain ⟨ms₁, v', ms₂, rfl, hbefore, hrest⟩ := ih hf.symm
      exact ⟨(name.toList, v) :: ms₁, v', ms₂, rfl, .field hname hv hbefore, hrest⟩
  | @other key v ms fields hother hv _ ih =>
    obtain ⟨ms₁, v', ms₂, rfl, hbefore, hrest⟩ := ih hfields
    exact ⟨(key, v) :: ms₁, v', ms₂, rfl, .other hother hv hbefore, hrest⟩

theorem Fields.exists_value {ms : List (List Char × List Char)}
    {fields : List (String × String)} (h : Fields ms fields) {name text : String}
    (hmem : (name, text) ∈ fields) :
    ∃ v, (name.toList, v) ∈ ms ∧ Json.StringText text.toList v := by
  obtain ⟨before, after, rfl⟩ := List.mem_iff_append.mp hmem
  obtain ⟨ms₁, v, ms₂, rfl, -, -, hv⟩ := h.exists_member
  exact ⟨v, by simp, hv⟩

/-- A name is among the fields if it is a key among the members. -/
theorem Fields.mem_names_iff {ms : List (List Char × List Char)}
    {fields : List (String × String)} (h : Fields ms fields) {name : String}
    (hname : name ∈ fieldNames) :
    name ∈ fields.map Prod.fst ↔ name.toList ∈ ms.map Prod.fst := by
  induction h with
  | nil => simp
  | @field name' text v ms fields _ _ _ ih =>
    rw [List.map_cons, List.map_cons, List.mem_cons, List.mem_cons, ih, String.toList_inj]
  | @other key v ms fields hother _ _ ih =>
    rw [List.map_cons, List.mem_cons, ih]
    exact ⟨.inr, fun h => h.resolve_left fun heq => hother name hname heq.symm⟩

/-! ## The verdict -/

/-- A field is faulty after others: it repeats the name of one of them, or it is the first to give
a time and the text is none. -/
inductive Faulty (before : List (String × String)) : String × String → Json.Fault → Prop where
  | repeated {name text : String} : name ∈ before.map Prod.fst →
      Faulty before (name, text) (.duplicateField name)
  | noTime {text : String} {cause : TimeError} : "created_at" ∉ before.map Prod.fst →
      Instant.read text.toList = .error cause → Faulty before ("created_at", text) (.time cause)

/-- No field is faulty after those before it. -/
def Faultless (fields : List (String × String)) : Prop :=
  ∀ before f after, fields = before ++ f :: after → ∀ fault, ¬ Faulty before f fault

/-- What an object with the given fields is read as. -/
inductive Verdict (fields : List (String × String)) : Except Json.Fault User → Prop where
  /-- The leftmost faulty field decides. -/
  | faulty {before after : List (String × String)} {f : String × String} {fault : Json.Fault} :
      fields = before ++ f :: after → Faultless before → Faulty before f fault →
      Verdict fields (.error fault)
  /-- Else the first field that is missing, in the order of declaration. -/
  | missing {earlier later : List String} {name : String} : Faultless fields →
      fieldNames = earlier ++ name :: later → (∀ n ∈ earlier, n ∈ fields.map Prod.fst) →
      name ∉ fields.map Prod.fst → Verdict fields (.error (.missingField name))
  /-- Else the user with these fields. -/
  | complete {u : User} {time : String} : Faultless fields → ("id", u.id) ∈ fields →
      ("name", u.name) ∈ fields → ("email", u.email) ∈ fields → ("created_at", time) ∈ fields →
      Instant.read time.toList = .ok u.createdAt → Verdict fields (.ok u)

theorem faultless_nil : Faultless [] := by
  intro before f after h
  simp at h

/-- One more field is faultless if it is not faulty after those that were there. -/
theorem faultless_concat_iff {fields : List (String × String)} {f : String × String} :
    Faultless (fields ++ [f]) ↔ Faultless fields ∧ ∀ fault, ¬ Faulty fields f fault := by
  constructor
  · intro h
    refine ⟨fun before g after heq => h before g (after ++ [f]) ?_, h fields f [] rfl⟩
    rw [heq, List.append_assoc, List.cons_append]
  · rintro ⟨h, hf⟩ before g after heq
    rcases List.eq_nil_or_concat' after with rfl | ⟨after, x, rfl⟩
    · obtain ⟨rfl, hg⟩ := List.append_inj' heq rfl
      exact List.singleton_inj.mp hg ▸ hf
    · rw [← List.cons_append, ← List.append_assoc] at heq
      exact h before g after (List.append_inj' heq rfl).1

theorem Faultless.nodup {fields : List (String × String)} (h : Faultless fields) :
    (fields.map Prod.fst).Nodup := by
  induction fields using List.reverseRecOn with
  | nil => exact List.nodup_nil
  | append_singleton fields f ih =>
    obtain ⟨hfields, hf⟩ := faultless_concat_iff.mp h
    have hnew : f.1 ∉ fields.map Prod.fst := fun hmem => hf _ (.repeated hmem)
    rw [List.map_append, List.map_singleton, List.nodup_append_comm]
    exact List.nodup_cons.mpr ⟨hnew, ih hfields⟩

/-- The time of faultless fields is one, since no other time is named before it. -/
theorem Faultless.exists_read {fields : List (String × String)} (h : Faultless fields)
    {text : String} (hmem : ("created_at", text) ∈ fields) :
    ∃ i, Instant.read text.toList = .ok i := by
  obtain ⟨before, after, rfl⟩ := List.mem_iff_append.mp hmem
  have hfirst : "created_at" ∉ before.map Prod.fst := by
    intro hbefore
    exact h before _ after rfl _ (.repeated hbefore)
  cases hread : Instant.read text.toList with
  | ok i => exact ⟨i, rfl⟩
  | error cause => exact absurd (.noTime hfirst hread) (h before _ after rfl _)

/-- Fields are faultless, or one of them is the leftmost faulty one. -/
theorem faultless_or_exists_faulty (fields : List (String × String)) :
    Faultless fields ∨ ∃ before f after fault, fields = before ++ f :: after ∧ Faultless before ∧
      Faulty before f fault := by
  induction fields using List.reverseRecOn with
  | nil => exact .inl faultless_nil
  | append_singleton fields f ih =>
    rcases ih with hfields | ⟨before, g, after, fault, rfl, hbefore, hg⟩
    · by_cases hf : ∃ fault, Faulty fields f fault
      · obtain ⟨fault, hf⟩ := hf
        exact .inr ⟨fields, f, [], fault, rfl, hfields, hf⟩
      · exact .inl (faultless_concat_iff.mpr ⟨hfields, fun fault hfault => hf ⟨fault, hfault⟩⟩)
    · exact .inr ⟨before, g, after ++ [f], fault, by simp, hbefore, hg⟩

theorem exists_verdict (fields : List (String × String)) : ∃ a, Verdict fields a := by
  rcases faultless_or_exists_faulty fields with h | ⟨before, f, after, fault, heq, hbefore, hf⟩
  · cases hmissing : fieldNames.find? (fun name => name ∉ fields.map Prod.fst) with
    | some name =>
      obtain ⟨hname, earlier, later, heq, hearlier⟩ := List.find?_eq_some_iff_append.mp hmissing
      exact ⟨_, .missing h heq (by simpa using hearlier) (by simpa using hname)⟩
    | none =>
      have hall : ∀ name ∈ fieldNames, ∃ text, (name, text) ∈ fields := by
        simpa using List.find?_eq_none.mp hmissing
      obtain ⟨id, hid⟩ := hall "id" (by decide)
      obtain ⟨name, hname⟩ := hall "name" (by decide)
      obtain ⟨email, hemail⟩ := hall "email" (by decide)
      obtain ⟨time, htime⟩ := hall "created_at" (by decide)
      obtain ⟨i, hi⟩ := h.exists_read htime
      exact ⟨.ok ⟨id, name, email, i⟩, .complete h hid hname hemail htime hi⟩
  · exact ⟨_, .faulty heq hbefore hf⟩

/-! ## Slots -/

theorem fieldNames_eq : fieldNames = slots.map (·.field.name) := rfl

theorem name_mem_fieldNames {k : Json.Slot Draft User} (hk : k ∈ slots) :
    k.field.name ∈ fieldNames := by
  rw [fieldNames_eq]
  exact List.mem_map_of_mem hk

/-- Every literal is a value of its field, if the one of the time spells one. -/
theorem exists_written {text : String} {v : List Char} (hv : Json.StringText text.toList v) :
    ∀ k ∈ slots, (k.field.name = "created_at" → ∃ i, Instant.read text.toList = .ok i) →
      ∃ x, k.Written x v := by
  have texts : ∃ x, Json.TextValue x v := ⟨text, hv⟩
  simp only [slots, List.forall_mem_cons]
  refine ⟨fun _ => texts, fun _ => texts, fun _ => texts, fun htime => ?_, by simp⟩
  obtain ⟨i, hi⟩ := htime rfl
  obtain ⟨t, ht, hdenotes⟩ := Instant.read_eq_ok_iff.mp hi
  exact ⟨i, text.toList, t, hv, ht, hdenotes⟩

theorem refuses_of_read_eq_error {text : String} {v : List Char} {cause : TimeError}
    (hv : Json.StringText text.toList v) (hcause : Instant.read text.toList = .error cause) :
    ∀ k ∈ slots, k.field.name = "created_at" → k.Refuses v (.time cause) := by
  simp only [slots, List.forall_mem_cons]
  refine ⟨fun h => absurd h (by decide), fun h => absurd h (by decide),
    fun h => absurd h (by decide), fun _ w r hw => ?_, by simp⟩
  simp only [Json.Slot.of, Json.Field.of, Json.readInstant,
    Json.readTextAs_eq_ok_iff.mpr ⟨w, v, hw, hv, rfl⟩, hcause]

/-- Faultless fields are read, as long as their slots are open. -/
theorem Fields.exists_changes {ms : List (List Char × List Char)}
    {fields : List (String × String)} (h : Fields ms fields)
    (hnames : (fields.map Prod.fst).Nodup)
    (htime : ∀ text, ("created_at", text) ∈ fields → ∃ i, Instant.read text.toList = .ok i) :
    ∀ d, (∀ k ∈ slots, k.field.name ∈ fields.map Prod.fst → k.get d = none) →
      ∃ d', Json.Changes slots d ms d' := by
  induction h with
  | nil => exact fun d _ => ⟨d, .nil⟩
  | @field name text v ms fields hname hv hrest ih =>
    intro d hopen
    rw [fieldNames_eq] at hname
    obtain ⟨k, hk, rfl⟩ := List.mem_map.mp hname
    rw [List.map_cons, List.nodup_cons] at hnames
    obtain ⟨x, hx⟩ := exists_written hv k hk fun hkey =>
      htime text (hkey ▸ List.mem_cons_self)
    obtain ⟨d', hd'⟩ := ih hnames.2 (fun text ht => htime text (List.mem_cons_of_mem _ ht))
      (k.set x d) (fun k' hk' hmem => by
        -- a name that comes later is another one
        have hne : k'.key ≠ k.key := fun heq =>
          hnames.1 (String.toList_inj.mp heq ▸ hmem)
        rw [lawful.get_set_ne k' hk' k hk hne]
        exact hopen k' hk' (List.mem_cons_of_mem _ hmem))
    exact ⟨d', .cons (.known hk (hopen k hk List.mem_cons_self) hx) hd'⟩
  | @other key v ms fields hother hv _ ih =>
    intro d hopen
    obtain ⟨d', hd'⟩ := ih hnames htime d hopen
    exact ⟨d', .cons (.other (fun k hk => hother _ (name_mem_fieldNames hk)) hv) hd'⟩

theorem Faultless.exists_changes {ms : List (List Char × List Char)}
    {fields : List (String × String)} (h : Faultless fields) (hf : Fields ms fields) :
    ∃ d, Json.Changes slots shape.blank ms d :=
  hf.exists_changes h.nodup (fun _ ht => h.exists_read ht) shape.blank
    fun k hk _ => lawful.get_blank k hk

/-- The first open slot is the one that is missed. -/
theorem finish_of_find? {d : Draft} {k : Json.Slot Draft User}
    (h : slots.find? (fun k => (k.get d).isNone) = some k) :
    d.finish = .error (.missingField k.field.name) := by
  obtain ⟨id, name, email, createdAt⟩ := d
  match id, name, email, createdAt with
  | none, _, _, _ =>
    obtain rfl := Option.some.inj h
    rfl
  | some _, none, _, _ =>
    obtain rfl := Option.some.inj h
    rfl
  | some _, some _, none, _ =>
    obtain rfl := Option.some.inj h
    rfl
  | some _, some _, some _, none =>
    obtain rfl := Option.some.inj h
    rfl
  | some _, some _, some _, some _ => cases h

/-! ## Reading -/

section Reading

variable {ms : List (List Char × List Char)} {fields : List (String × String)} {s : List Char}

/-- **The leftmost faulty field decides.** -/
theorem read_of_faulty {before after : List (String × String)} {f : String × String}
    {fault : Json.Fault} (hs : Json.ObjectOf ms s) (h : Fields ms (before ++ f :: after))
    (hbefore : Faultless before) (hfault : Faulty before f fault) :
    shape.read s = .error (.data fault) := by
  obtain ⟨ms₁, v, ms₂, rfl, hfields, hname, hv⟩ := h.exists_member
  obtain ⟨d, hd⟩ := hbefore.exists_changes hfields
  obtain ⟨k, hk, hkey⟩ := List.mem_map.mp (fieldNames_eq ▸ hname)
  have hfilled : (k.get d).isSome = true ↔ f.1 ∈ before.map Prod.fst := by
    rw [lawful.isSome_get_of_changes hd hk, hfields.mem_names_iff hname, ← hkey]
    rfl
  refine lawful.read_of_fault hd ?_ hs
  rw [← hkey]
  cases hfault with
  | repeated hmem =>
    have hstop := lawful.stopsAt_of_filled hk (hfilled.mpr hmem) v
    rwa [hkey] at hstop
  | noTime hfirst hcause =>
    have hopen : k.get d = none := by
      rw [← Option.not_isSome_iff_eq_none, hfilled]
      exact hfirst
    exact lawful.stopsAt_of_refused hk hopen (refuses_of_read_eq_error hv hcause k hk hkey)

/-- **Without a faulty field the first one missing decides.** -/
theorem read_of_missing {earlier later : List String} {name : String} (hs : Json.ObjectOf ms s)
    (h : Fields ms fields) (hfaultless : Faultless fields)
    (hnames : fieldNames = earlier ++ name :: later)
    (hearlier : ∀ n ∈ earlier, n ∈ fields.map Prod.fst) (hmissing : name ∉ fields.map Prod.fst) :
    shape.read s = .error (.data (.missingField name)) := by
  obtain ⟨d, hd⟩ := hfaultless.exists_changes h
  have hopen : ∀ k ∈ slots, (k.get d).isNone = true ↔ k.field.name ∉ fields.map Prod.fst := by
    intro k hk
    rw [h.mem_names_iff (name_mem_fieldNames hk), Option.isNone_iff_eq_none,
      ← Option.not_isSome_iff_eq_none, lawful.isSome_get_of_changes hd hk]
    rfl
  rw [fieldNames_eq] at hnames
  obtain ⟨ks, ks', hslots, rfl, hks'⟩ := List.map_eq_append_iff.mp hnames
  obtain ⟨k, later, rfl, rfl, -⟩ := List.map_eq_cons_iff.mp hks'
  have hfind : slots.find? (fun k => (k.get d).isNone) = some k := by
    refine List.find?_eq_some_iff_append.mpr ⟨?_, ks, later, hslots, fun a ha => ?_⟩
    · exact (hopen k (by simp [hslots])).mpr hmissing
    · rw [Bool.not_eq_true', Bool.eq_false_iff, ne_eq, hopen a (by simp [hslots, ha]), not_not]
      exact hearlier _ (List.mem_map_of_mem ha)
  rw [lawful.read_of_changes hd hs]
  show (Draft.finish d).mapError _ = _
  rw [finish_of_find? hfind]
  rfl

/-- **With no field missing the user is read.** -/
theorem read_of_complete {u : User} {time : String} (hs : Json.ObjectOf ms s)
    (h : Fields ms fields) (hfaultless : Faultless fields) (hid : ("id", u.id) ∈ fields)
    (hname : ("name", u.name) ∈ fields) (hemail : ("email", u.email) ∈ fields)
    (htime : ("created_at", time) ∈ fields) (hread : Instant.read time.toList = .ok u.createdAt) :
    shape.read s = .ok u := by
  obtain ⟨d, hd⟩ := hfaultless.exists_changes h
  have hvalues : ∀ k ∈ slots, ∀ text, (k.field.name, text) ∈ fields →
      ∃ v x, Json.StringText text.toList v ∧ k.Written x v ∧ k.get d = some x := by
    intro k hk text hmem
    obtain ⟨v, hv, htext⟩ := h.exists_value hmem
    obtain ⟨x, hx, hget⟩ := lawful.exists_get_of_changes hd hk hv
    exact ⟨v, x, htext, hx, hget⟩
  have htext : ∀ {x text : String} {v : List Char}, Json.StringText text.toList v →
      Json.TextValue x v → x = text := fun hv hx => String.toList_inj.mp (hx.unique hv)
  have hfinish : shape.finish d = .ok u := by
    rw [lawful.finish_iff]
    simp only [slots, List.forall_mem_cons] at hvalues ⊢
    obtain ⟨vid, vname, vemail, vtime, -⟩ := hvalues
    refine ⟨?_, ?_, ?_, ?_, by simp⟩
    · obtain ⟨v, x, hv, hx, hget⟩ := vid u.id hid
      exact hget.trans (congrArg some (htext hv hx))
    · obtain ⟨v, x, hv, hx, hget⟩ := vname u.name hname
      exact hget.trans (congrArg some (htext hv hx))
    · obtain ⟨v, x, hv, hx, hget⟩ := vemail u.email hemail
      exact hget.trans (congrArg some (htext hv hx))
    · obtain ⟨v, i, hv, ⟨text, t, hv', ht, hdenotes⟩, hget⟩ := vtime time htime
      -- the literal spells one text, so that the instant read from it is the user's
      obtain rfl := hv'.unique hv
      rw [Instant.read_eq_ok_iff.mpr ⟨t, ht, hdenotes⟩] at hread
      exact hget.trans (congrArg some (Except.ok.inj hread))
  rw [lawful.read_of_changes hd hs, hfinish]
  rfl

theorem read_of_verdict {a : Except Json.Fault User} (hs : Json.ObjectOf ms s)
    (h : Fields ms fields) (ha : Verdict fields a) : shape.read s = a.mapError .data := by
  cases ha with
  | faulty heq hbefore hfault => exact read_of_faulty hs (heq ▸ h) hbefore hfault
  | missing hfaultless hnames hearlier hmissing =>
    exact read_of_missing hs h hfaultless hnames hearlier hmissing
  | complete hfaultless hid hname hemail htime hread =>
    exact read_of_complete hs h hfaultless hid hname hemail htime hread

end Reading

/-- **The leftmost fault wins.** Of an object in which the fields of a user are given by string
literals, reading gives the verdict on them: the leftmost field that repeats a name or is no time,
else the first field missing, else the user. There is one verdict, and the members of other names
have no part in it. -/
theorem leftmost_fault_wins {ms : List (List Char × List Char)} {s : String}
    (hs : Json.ObjectOf ms s.toList)
    (hliterals : ∀ m ∈ ms, ∀ name ∈ fieldNames, m.1 = name.toList → ∃ x, Json.StringText x m.2)
    (hothers : ∀ m ∈ ms, (∀ name ∈ fieldNames, m.1 ≠ name.toList) → Json.IsValue m.2) :
    (∃ fields, Fields ms fields) ∧
    ∀ fields, Fields ms fields →
      (∃ a, ofJson s = a.mapError .data ∧ ∀ a', Verdict fields a' ↔ a' = a) ∧
      ∀ ms' s', Json.ObjectOf ms' (String.toList s') → Fields ms' fields →
        ofJson s' = ofJson s := by
  refine ⟨exists_fields hliterals hothers, fun fields hfields => ?_⟩
  obtain ⟨a, ha⟩ := exists_verdict fields
  have hread : ofJson s = a.mapError .data := read_of_verdict hs hfields ha
  refine ⟨⟨a, hread, fun a' => ⟨fun ha' => ?_, fun heq => heq ▸ ha⟩⟩, fun ms' s' hs' hfields' => ?_⟩
  · have hread' : ofJson s = a'.mapError .data := read_of_verdict hs hfields ha'
    rw [hread] at hread'
    exact (Json.mapError_data_inj hread').symm
  · rw [hread]
    exact read_of_verdict hs' hfields' ha

/-- A second id is a fault sooner than the time after it, which is none, and than the fields that
are missing. -/
theorem repeated_id_before_wrong_time :
    Json.ObjectOf [("id".toList, Json.literal "a".toList), ("x".toList, "[]".toList),
        ("id".toList, Json.literal "b".toList), ("created_at".toList, Json.literal "soon".toList)]
      "\x7b\"id\":\"a\",\"x\":[],\"id\":\"b\",\"created_at\":\"soon\"\x7d".toList ∧
    ofJson "\x7b\"id\":\"a\",\"x\":[],\"id\":\"b\",\"created_at\":\"soon\"\x7d"
      = .error (.data (.duplicateField "id")) := by
  have hvalue : Json.IsValue "[]".toList := @Json.Part.Text.bracket .array _ (.empty .nil)
  have hother : ∀ name ∈ fieldNames, "x".toList ≠ name.toList := by decide
  have hfields : Fields _ [("id", "a"), ("id", "b"), ("created_at", "soon")] :=
    .field (by decide) (Json.stringText_literal "a".toList) <| .other hother hvalue <|
      .field (by decide) (Json.stringText_literal "b".toList) <|
      .field (by decide) (Json.stringText_literal "soon".toList) .nil
  have hfaultless : Faultless [("id", "a")] := by
    refine faultless_concat_iff.mpr ⟨faultless_nil, fun fault hfault => ?_⟩
    generalize hf : ("id", "a") = f at hfault
    cases hfault with
    | repeated h => cases h
    | noTime => exact absurd (Prod.mk.inj hf).1 (by decide)
  have hverdict := @Verdict.faulty _ [("id", "a")] [("created_at", "soon")] ("id", "b") _ rfl
    hfaultless (.repeated (by decide))
  have hs : Json.ObjectOf _
      "\x7b\"id\":\"a\",\"x\":[],\"id\":\"b\",\"created_at\":\"soon\"\x7d".toList :=
    Json.objectOf_objectChars
      [("id".toList, Json.literal "a".toList), ("x".toList, "[]".toList),
        ("id".toList, Json.literal "b".toList), ("created_at".toList, Json.literal "soon".toList)]
  refine ⟨hs, ?_⟩
  obtain ⟨-, hanswer⟩ := leftmost_fault_wins hs (by
    simp only [List.forall_mem_cons]
    exact ⟨fun _ _ _ => ⟨_, Json.stringText_literal _⟩,
      fun name hname heq => absurd heq (hother name hname),
      fun _ _ _ => ⟨_, Json.stringText_literal _⟩, fun _ _ _ => ⟨_, Json.stringText_literal _⟩,
      by simp⟩) (by
    simp only [List.forall_mem_cons]
    exact ⟨fun h => absurd rfl (h "id" (by decide)), fun _ => hvalue,
      fun h => absurd rfl (h "id" (by decide)), fun h => absurd rfl (h "created_at" (by decide)),
      by simp⟩)
  obtain ⟨⟨a, hread, hunique⟩, -⟩ := hanswer _ hfields
  refine hread.trans ?_
  rw [← (hunique _).mp hverdict]
  rfl

end UserDirectory.User
