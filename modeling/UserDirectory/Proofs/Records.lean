import UserDirectory.Envelope
import UserDirectory.Proofs.Json.Value
import UserDirectory.User

/-!
# Records and their texts

The grammar of records, applied to the two records there are. Users and envelopes are read from
exactly the texts that the grammar gives for them, and what is written for one of them is such a
text, so that it is read back.
-/

namespace UserDirectory

/-- What is read back from its text has a text of its own. -/
theorem injective_of_read_back {ε α : Type} {write : α → String} {read : String → Except ε α}
    (h : ∀ x, read (write x) = .ok x) : Function.Injective write := by
  intro x y hxy
  have hread := h y
  rw [← hxy, h x] at hread
  exact Except.ok.inj hread

/-! ## Users -/

namespace User

/-- The fields of a user and how they are written. -/
def fieldTexts (u : User) : List Json.FieldText := [
  ⟨"id", Json.TextValue u.id⟩,
  ⟨"name", Json.TextValue u.name⟩,
  ⟨"email", Json.TextValue u.email⟩,
  ⟨"created_at", Json.InstantValue u.createdAt⟩]

/-- The slots of the draft of a user. -/
def slots : List (Json.Slot Draft User) := [
  .of "id" (·.id) (fun text d => { d with id := some text }) (·.id)
    Json.readText Json.readText_length Json.TextValue,
  .of "name" (·.name) (fun text d => { d with name := some text }) (·.name)
    Json.readText Json.readText_length Json.TextValue,
  .of "email" (·.email) (fun text d => { d with email := some text }) (·.email)
    Json.readText Json.readText_length Json.TextValue,
  .of "created_at" (·.createdAt) (fun t d => { d with createdAt := some t }) (·.createdAt)
    Json.readInstant Json.readInstant_length Json.InstantValue]

/-- A draft is finished when all of its fields are there. -/
theorem finish_eq_ok_iff {d : Draft} {u : User} :
    d.finish = .ok u ↔ d = ⟨some u.id, some u.name, some u.email, some u.createdAt⟩ := by
  constructor
  · intro h
    unfold Draft.finish at h
    split at h
    · next hid hname hemail hcreated =>
      obtain rfl := Except.ok.inj h
      obtain ⟨id, name, email, createdAt⟩ := d
      simp only at hid hname hemail hcreated
      rw [hid, hname, hemail, hcreated]
    · simp at h
    · simp at h
    · simp at h
    · simp at h
  · rintro rfl
    rfl

theorem lawful : shape.Lawful slots where
  fields_eq := rfl
  names := by decide
  exact := by
    simp only [slots, List.forall_mem_cons]
    exact ⟨Json.Slot.of_exact Json.readsExactly_readText,
      Json.Slot.of_exact Json.readsExactly_readText, Json.Slot.of_exact Json.readsExactly_readText,
      Json.Slot.of_exact Json.readsExactly_readInstant, by simp⟩
  get_blank := by
    simp only [slots, List.forall_mem_cons]
    exact ⟨rfl, rfl, rfl, rfl, by simp⟩
  get_set := by
    simp only [slots, List.forall_mem_cons]
    exact ⟨fun _ _ => rfl, fun _ _ => rfl, fun _ _ => rfl, fun _ _ => rfl, by simp⟩
  get_set_ne := by
    simp only [slots, List.forall_mem_cons]
    exact ⟨
      ⟨fun h => absurd rfl h, fun _ _ _ => rfl, fun _ _ _ => rfl, fun _ _ _ => rfl, by simp⟩,
      ⟨fun _ _ _ => rfl, fun h => absurd rfl h, fun _ _ _ => rfl, fun _ _ _ => rfl, by simp⟩,
      ⟨fun _ _ _ => rfl, fun _ _ _ => rfl, fun h => absurd rfl h, fun _ _ _ => rfl, by simp⟩,
      ⟨fun _ _ _ => rfl, fun _ _ _ => rfl, fun _ _ _ => rfl, fun h => absurd rfl h, by simp⟩,
      by simp⟩
  finish_iff d u := by
    obtain ⟨id, name, email, createdAt⟩ := d
    show Draft.finish _ = _ ↔ _
    rw [finish_eq_ok_iff, Draft.mk.injEq]
    simp only [slots, List.forall_mem_cons]
    constructor
    · rintro ⟨hid, hname, hemail, hcreated⟩
      exact ⟨hid, hname, hemail, hcreated, by simp⟩
    · rintro ⟨hid, hname, hemail, hcreated, -⟩
      exact ⟨hid, hname, hemail, hcreated⟩

/-- A user is read from exactly the texts of its fields. -/
theorem ofJson_eq_ok_iff {t : String} {u : User} :
    ofJson t = .ok u ↔ Json.RecordText u.fieldTexts t.toList :=
  lawful.read_eq_ok_iff

theorem toList_toJson (u : User) :
    u.toJson.toList = Json.objectChars [
      ("id".toList, Json.literal u.id.toList),
      ("name".toList, Json.literal u.name.toList),
      ("email".toList, Json.literal u.email.toList),
      ("created_at".toList, Json.literal u.createdAt.text)] := by
  rw [toJson, String.toList_ofList]
  simp only [jsonText, Json.objectChars, Json.memberChars, List.flatMap_cons, List.flatMap_nil,
    List.append_assoc, List.cons_append, List.nil_append]
  rfl

/-- A user is read back from what is written for it. -/
theorem ofJson_toJson (u : User) : ofJson u.toJson = .ok u := by
  rw [ofJson_eq_ok_iff, toList_toJson]
  exact @Json.recordText_objectChars [
    (⟨"id", Json.TextValue u.id⟩, Json.literal u.id.toList),
    (⟨"name", Json.TextValue u.name⟩, Json.literal u.name.toList),
    (⟨"email", Json.TextValue u.email⟩, Json.literal u.email.toList),
    (⟨"created_at", Json.InstantValue u.createdAt⟩, Json.literal u.createdAt.text)]
    (show ["id".toList, "name".toList, "email".toList, "created_at".toList].Nodup by decide)
    (by
      simp only [List.forall_mem_cons]
      exact ⟨Json.textValue_literal _, Json.textValue_literal _, Json.textValue_literal _,
        Json.instantValue_literal _, by simp⟩)

theorem toJson_injective : Function.Injective toJson := injective_of_read_back ofJson_toJson

end User

/-! ## Envelopes -/

namespace Envelope

/-- The fields of an envelope and how they are written. -/
def fieldTexts (e : Envelope) : List Json.FieldText := [
  ⟨"status", Json.Int32Value e.status⟩,
  ⟨"message", Json.TextValue e.message⟩]

/-- The slots of the draft of an envelope. -/
def slots : List (Json.Slot Draft Envelope) := [
  .of "status" (·.status) (fun n d => { d with status := some n }) (·.status)
    Json.readInt32 Json.readInt32_length Json.Int32Value,
  .of "message" (·.message) (fun text d => { d with message := some text }) (·.message)
    Json.readText Json.readText_length Json.TextValue]

/-- A draft is finished when both of its fields are there. -/
theorem finish_eq_ok_iff {d : Draft} {e : Envelope} :
    d.finish = .ok e ↔ d = ⟨some e.status, some e.message⟩ := by
  constructor
  · intro h
    unfold Draft.finish at h
    split at h
    · next hstatus hmessage =>
      obtain rfl := Except.ok.inj h
      obtain ⟨status, message⟩ := d
      simp only at hstatus hmessage
      rw [hstatus, hmessage]
    · simp at h
    · simp at h
  · rintro rfl
    rfl

theorem lawful : shape.Lawful slots where
  fields_eq := rfl
  names := by decide
  exact := by
    simp only [slots, List.forall_mem_cons]
    exact ⟨Json.Slot.of_exact Json.readsExactly_readInt32,
      Json.Slot.of_exact Json.readsExactly_readText, by simp⟩
  get_blank := by
    simp only [slots, List.forall_mem_cons]
    exact ⟨rfl, rfl, by simp⟩
  get_set := by
    simp only [slots, List.forall_mem_cons]
    exact ⟨fun _ _ => rfl, fun _ _ => rfl, by simp⟩
  get_set_ne := by
    simp only [slots, List.forall_mem_cons]
    exact ⟨
      ⟨fun h => absurd rfl h, fun _ _ _ => rfl, by simp⟩,
      ⟨fun _ _ _ => rfl, fun h => absurd rfl h, by simp⟩,
      by simp⟩
  finish_iff d e := by
    obtain ⟨status, message⟩ := d
    show Draft.finish _ = _ ↔ _
    rw [finish_eq_ok_iff, Draft.mk.injEq]
    simp only [slots, List.forall_mem_cons]
    constructor
    · rintro ⟨hstatus, hmessage⟩
      exact ⟨hstatus, hmessage, by simp⟩
    · rintro ⟨hstatus, hmessage, -⟩
      exact ⟨hstatus, hmessage⟩

/-- An envelope is read from exactly the texts of its fields. -/
theorem ofJson_eq_ok_iff {t : String} {e : Envelope} :
    ofJson t = .ok e ↔ Json.RecordText e.fieldTexts t.toList :=
  lawful.read_eq_ok_iff

theorem toList_toJson (e : Envelope) :
    e.toJson.toList = Json.objectChars [
      ("status".toList, Digits.signed e.status.toInt),
      ("message".toList, Json.literal e.message.toList)] := by
  rw [toJson, String.toList_ofList]
  simp only [jsonText, Json.objectChars, Json.memberChars, List.flatMap_cons, List.flatMap_nil,
    List.append_assoc, List.cons_append, List.nil_append]
  rfl

/-- An envelope is read back from what is written for it. -/
theorem ofJson_toJson (e : Envelope) : ofJson e.toJson = .ok e := by
  rw [ofJson_eq_ok_iff, toList_toJson]
  exact @Json.recordText_objectChars [
    (⟨"status", Json.Int32Value e.status⟩, Digits.signed e.status.toInt),
    (⟨"message", Json.TextValue e.message⟩, Json.literal e.message.toList)]
    (show ["status".toList, "message".toList].Nodup by decide)
    (by
      simp only [List.forall_mem_cons]
      exact ⟨Json.int32Value_signed _, Json.textValue_literal _, by simp⟩)

theorem toJson_injective : Function.Injective toJson := injective_of_read_back ofJson_toJson

end Envelope

/-! ## Both -/

/-- **Every record is read back from what is written for it**, so that different records are
written differently. -/
theorem records_read_back :
    (∀ u : User, User.ofJson u.toJson = .ok u) ∧
    (∀ e : Envelope, Envelope.ofJson e.toJson = .ok e) ∧
    Function.Injective User.toJson ∧ Function.Injective Envelope.toJson :=
  ⟨User.ofJson_toJson, Envelope.ofJson_toJson, User.toJson_injective, Envelope.toJson_injective⟩

/-- **Records are read from exactly their grammar.** In an array the values of the fields stand in
order and nothing else; in an object each field is named once, in any order, among members of other
names with values of any kind. -/
theorem records_read_exactly (t : String) :
    (∀ u : User, User.ofJson t = .ok u ↔
      Json.RecordText [
        ⟨"id", Json.TextValue u.id⟩,
        ⟨"name", Json.TextValue u.name⟩,
        ⟨"email", Json.TextValue u.email⟩,
        ⟨"created_at", Json.InstantValue u.createdAt⟩] t.toList) ∧
    ∀ e : Envelope, Envelope.ofJson t = .ok e ↔
      Json.RecordText [
        ⟨"status", Json.Int32Value e.status⟩,
        ⟨"message", Json.TextValue e.message⟩] t.toList :=
  ⟨fun _ => User.ofJson_eq_ok_iff, fun _ => Envelope.ofJson_eq_ok_iff⟩

end UserDirectory
