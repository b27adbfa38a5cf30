import UserDirectory.Proofs.Json.Framing
import UserDirectory.Proofs.Records

/-!
# Records say where they end

The two records there are, cut off and gone on with. What is written for a record holds no member
of another name, so that it is awaited to its last character; a text that is read as a record, in
whatever form, may be followed by blanks alone.
-/

namespace UserDirectory

/-- A writer and a reader of records between which a text says where it ends. -/
structure Framed {α : Type} (write : α → String) (read : String → Except Json.Error α) : Prop where
  whole : ∀ r : α, read (write r) = .ok r
  /-- What is written and breaks off is a text that ended. -/
  cut : ∀ {r : α} {p x : String}, write r = p ++ x → x ≠ "" → read p = .error .eof
  /-- Blanks may follow a record. -/
  blanks : ∀ {t x : String} {r : α}, read t = .ok r →
    (∀ c ∈ x.toList, c ∈ [' ', '\t', '\n', '\r']) → read (t ++ x) = .ok r
  /-- A record that anything else follows is malformed. -/
  more : ∀ {t x : String} {r : α}, read t = .ok r →
    (∃ c ∈ x.toList, c ∉ [' ', '\t', '\n', '\r']) → read (t ++ x) = .error .malformed

/-- Records of a lawful shape are framed if the shape awaits what is written for them. -/
theorem Json.Shape.Lawful.framed {δ α : Type} {shape : Shape δ α} {slots : List (Slot δ α)}
    (lawful : shape.Lawful slots) {write : α → String} {read : String → Except Error α}
    (hread : ∀ t, read t = shape.read t.toList)
    (whole : ∀ r, read (write r) = .ok r) (awaits : ∀ r, Awaits shape.read (write r).toList) :
    Framed write read where
  whole := whole
  cut {r p x} hcut hne := by
    rw [hread]
    refine awaits r p.toList ⟨x.toList, ?_, ?_⟩
    · exact fun h => hne (String.toList_eq_nil_iff.mp h)
    · rw [hcut, String.toList_append]
  blanks {t x r} h hx := by
    rw [hread] at h ⊢
    rw [String.toList_append]
    exact lawful.read_append_blanks h fun c hc => isBlank_iff.mpr (hx c hc)
  more {t x r} h hx := by
    obtain ⟨c, hc, hother⟩ := hx
    rw [hread] at h ⊢
    rw [String.toList_append]
    exact lawful.read_append_of_not_blanks h fun hall => hother (isBlank_iff.mp (hall c hc))

/-! ## Users -/

namespace User

theorem patient : ∀ k ∈ slots, k.Patient := by
  have text : ∀ {w v : List Char} {x : String}, Json.Blanks w → Json.TextValue x v →
      Json.AwaitsOrEnds Json.readText (w ++ v) :=
    fun hw hv p hp => .inl (Json.awaits_readText hw hv p hp)
  simp only [slots, List.forall_mem_cons]
  exact ⟨Json.Slot.of_patient text, Json.Slot.of_patient text, Json.Slot.of_patient text,
    Json.Slot.of_patient fun hw hv p hp => .inl (Json.awaits_readInstant hw hv p hp), by simp⟩

theorem awaits_toJson (u : User) : Json.Awaits shape.read u.toJson.toList := by
  have hnames : ["id".toList, "name".toList, "email".toList, "created_at".toList].Nodup := by
    decide
  rw [toList_toJson]
  refine lawful.awaits_objectChars patient (u := u) hnames ?_ ?_
  · simp only [slots, List.forall_mem_cons]
    exact ⟨⟨_, .head _, Json.textValue_literal _⟩,
      ⟨_, .tail _ (.head _), Json.textValue_literal _⟩,
      ⟨_, .tail _ (.tail _ (.head _)), Json.textValue_literal _⟩,
      ⟨_, .tail _ (.tail _ (.tail _ (.head _))), Json.instantValue_literal _⟩, by simp⟩
  · simp only [slots, List.forall_mem_cons, List.exists_mem_cons_iff]
    exact ⟨.inl rfl, .inr (.inl rfl), .inr (.inr (.inl rfl)), .inr (.inr (.inr (.inl rfl))),
      by simp⟩

end User

/-! ## Envelopes -/

namespace Envelope

theorem patient : ∀ k ∈ slots, k.Patient := by
  simp only [slots, List.forall_mem_cons]
  exact ⟨Json.Slot.of_patient Json.awaitsOrEnds_readInt32,
    Json.Slot.of_patient fun hw hv p hp => .inl (Json.awaits_readText hw hv p hp), by simp⟩

theorem awaits_toJson (e : Envelope) : Json.Awaits shape.read e.toJson.toList := by
  have hnames : ["status".toList, "message".toList].Nodup := by decide
  rw [toList_toJson]
  refine lawful.awaits_objectChars patient (u := e) hnames ?_ ?_
  · simp only [slots, List.forall_mem_cons]
    exact ⟨⟨_, .head _, Json.int32Value_signed _⟩,
      ⟨_, .tail _ (.head _), Json.textValue_literal _⟩, by simp⟩
  · simp only [slots, List.forall_mem_cons, List.exists_mem_cons_iff]
    exact ⟨.inl rfl, .inr (.inl rfl), by simp⟩

end Envelope

/-! ## Both -/

/-- **Every record text says where it ends.** Wherever what is written breaks off, inside a key, an
escape, a number, a time or between them, the reader says that the text ended; and only blanks may
follow a text that is read. -/
theorem record_texts_end_themselves :
    Framed User.toJson User.ofJson ∧ Framed Envelope.toJson Envelope.ofJson :=
  ⟨User.lawful.framed (fun _ => rfl) User.ofJson_toJson User.awaits_toJson,
    Envelope.lawful.framed (fun _ => rfl) Envelope.ofJson_toJson Envelope.awaits_toJson⟩

/-- A user whose id is a control, cut off inside the escape; an envelope cut off between the digits
of its status, gone on with by a line end, and by a second brace. -/
theorem control_escape_cut_off :
    User.toJson ⟨"\x01", "", "", .epoch⟩
        = "\x7b\"id\":\"\\u00" ++
          "01\",\"name\":\"\",\"email\":\"\",\"created_at\":\"1970-01-01T00:00:00Z\"\x7d" ∧
      User.ofJson "\x7b\"id\":\"\\u00" = .error .eof ∧
      Envelope.toJson ⟨-42, ""⟩ = "\x7b\"status\":-4" ++ "2,\"message\":\"\"\x7d" ∧
      Envelope.ofJson "\x7b\"status\":-4" = .error .eof ∧
      Envelope.ofJson (Envelope.toJson ⟨-42, ""⟩ ++ "\n") = .ok ⟨-42, ""⟩ ∧
      Envelope.ofJson (Envelope.toJson ⟨-42, ""⟩ ++ " \x7d") = .error .malformed := by
  have hu : User.toJson ⟨"\x01", "", "", .epoch⟩
      = "\x7b\"id\":\"\\u00" ++
        "01\",\"name\":\"\",\"email\":\"\",\"created_at\":\"1970-01-01T00:00:00Z\"\x7d" := by
    decide +kernel
  have he : Envelope.toJson ⟨-42, ""⟩ = "\x7b\"status\":-4" ++ "2,\"message\":\"\"\x7d" := by
    decide +kernel
  obtain ⟨users, envelopes⟩ := record_texts_end_themselves
  exact ⟨hu, users.cut hu (by decide), he, envelopes.cut he (by decide),
    envelopes.blanks (envelopes.whole _) (by simp),
    envelopes.more (envelopes.whole _) ⟨'\x7d', by simp, by simp⟩⟩

end UserDirectory
