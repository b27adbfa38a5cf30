import UserDirectory.Proofs.Json.Unambiguous
import UserDirectory.Proofs.Records
import UserDirectory.Proofs.Time.Timestamp

/-!
# The time of creation

A user is read when its time of creation is, and the instant in the record is the one that the
calendar gives for the text. Since a text is a record in one way, the outcome is told by the texts
of the four fields alone, in an object as in an array.
-/

namespace UserDirectory

/-! ## Fields -/

namespace Json

theorem eq_of_meet_textValue {name x y : String}
    (h : Meet ⟨name, TextValue x⟩ ⟨name, TextValue y⟩) : x = y := by
  obtain ⟨v, hx, hy⟩ := h
  exact String.toList_inj.mp (StringText.unique hx hy)

/-- An instant is written by the strings from which it is read. -/
theorem instantValue_iff {i : Instant} {v : List Char} :
    InstantValue i v ↔ ∃ text, StringText text v ∧ Instant.read text = .ok i := by
  simp only [InstantValue, Instant.read_eq_ok_iff]
  constructor
  · rintro ⟨text, l, hv, hl⟩
    exact ⟨text, hv, l, hl⟩
  · rintro ⟨text, hv, l, hl⟩
    exact ⟨text, l, hv, hl⟩

end Json

/-! ## Users -/

namespace User

/-- The text is a record of a user with these fields. The time of creation may be any string. -/
def Written (id name email : String) (time : List Char) (t : String) : Prop :=
  Json.RecordText [
    ⟨"id", Json.TextValue id⟩,
    ⟨"name", Json.TextValue name⟩,
    ⟨"email", Json.TextValue email⟩,
    ⟨"created_at", Json.StringText time⟩] t.toList

/-- An array of the fields without blanks is such a record. -/
theorem written_array (id name email : String) (time : List Char) :
    Written id name email time (String.ofList ('[' :: (Json.literal id.toList ++
      ',' :: (Json.literal name.toList ++ ',' :: (Json.literal email.toList ++
        ',' :: (Json.literal time ++ [']'])))))) := by
  rw [Written, String.toList_ofList]
  have hseries : Json.Series Json.ElementText ']' true
      [Json.literal id.toList, Json.literal name.toList, Json.literal email.toList,
        Json.literal time] _ :=
    .first .nil rfl (.next .nil .nil rfl (.next .nil .nil rfl (.next .nil .nil rfl (.close .nil))))
  refine ⟨[], _, [], .nil, .nil, .inl ⟨_, _, hseries, rfl, ?_⟩, by simp⟩
  exact .cons (Json.textValue_literal _) (.cons (Json.textValue_literal _)
    (.cons (Json.textValue_literal _) (.cons (Json.stringText_literal _) .nil)))

theorem valued_fieldTexts (u : User) : Json.Valued u.fieldTexts := by
  simp only [Json.Valued, fieldTexts, List.forall_mem_cons]
  refine ⟨fun _ hv => hv.isValue, fun _ hv => hv.isValue, fun _ hv => hv.isValue, ?_, by simp⟩
  rintro v ⟨text, l, hv, -⟩
  exact hv.isValue

variable {id name email t : String} {time : List Char}

/-- **A user is read when its time of creation is**, and has the fields that are written. -/
theorem ofJson_eq_ok_iff_of_written (h : Written id name email time t) {u : User} :
    ofJson t = .ok u ↔
      u.id = id ∧ u.name = name ∧ u.email = email ∧ Instant.read time = .ok u.createdAt := by
  rw [ofJson_eq_ok_iff]
  constructor
  · intro hu
    have hvalued : Json.Valued [
        ⟨"id", Json.TextValue id⟩, ⟨"name", Json.TextValue name⟩, ⟨"email", Json.TextValue email⟩,
        ⟨"created_at", Json.StringText time⟩] := by
      simp only [Json.Valued, List.forall_mem_cons]
      exact ⟨fun _ hv => hv.isValue, fun _ hv => hv.isValue, fun _ hv => hv.isValue,
        fun _ hv => hv.isValue, by simp⟩
    -- the two readings of the text have the value of every field in common
    have hmeet := Json.RecordText.meet u.valued_fieldTexts hvalued (by simp [fieldTexts]) hu h
    simp only [fieldTexts, List.forall₂_cons, List.Forall₂.nil, and_true] at hmeet
    obtain ⟨hid, hname, hemail, v, hinstant, htime⟩ := hmeet
    obtain ⟨text, htext, hread⟩ := Json.instantValue_iff.mp hinstant
    rw [htext.unique htime] at hread
    exact ⟨Json.eq_of_meet_textValue hid, Json.eq_of_meet_textValue hname,
      Json.eq_of_meet_textValue hemail, hread⟩
  · rintro ⟨rfl, rfl, rfl, hread⟩
    refine Json.RecordText.mono ?_ h
    simp only [fieldTexts, List.forall₂_cons, List.Forall₂.nil, and_true]
    exact ⟨⟨rfl, fun _ hv => hv⟩, ⟨rfl, fun _ hv => hv⟩, ⟨rfl, fun _ hv => hv⟩, rfl,
      fun v hv => Json.instantValue_iff.mpr ⟨time, hv, hread⟩⟩

/-- Users that agree on the other fields are equal when they were created at the same instant. -/
theorem eq_iff_createdAt {u w : User} (hid : u.id = w.id) (hname : u.name = w.name)
    (hemail : u.email = w.email) : u = w ↔ u.createdAt = w.createdAt := by
  obtain ⟨id, name, email, createdAt⟩ := u
  obtain ⟨id', name', email', createdAt'⟩ := w
  simp only at hid hname hemail
  subst hid hname hemail
  simp only [User.mk.injEq, true_and]

end User

/-! ## Timestamps in records -/

/-- **The time of creation is read by the calendar.** A user with a timestamp is accepted exactly if
there is such a date, such a time of day and such an offset. Its time of creation is then the local
time less the offset, whatever boundary lies between the two, with the fraction cut off after nine
digits and second 60 marked as a leap second. Two such users that agree on the other fields and lie
in no leap second are equal exactly if nanoseconds do not tell their timestamps apart. -/
theorem created_at_read_by_calendar {x y : Timestamp} {s r : List Char}
    {id name email t t' : String} (hx : x.Text s) (hy : y.Text r)
    (ht : User.Written id name email s t) (ht' : User.Written id name email r t') :
    ((∃ u, User.ofJson t = .ok u) ↔ x.Valid) ∧
    (∀ u, User.ofJson t = .ok u →
      u.id = id ∧ u.name = name ∧ u.email = email ∧ x.FallsOn u.createdAt) ∧
    ∀ u w, User.ofJson t = .ok u → User.ofJson t' = .ok w → x.second ≠ 60 → y.second ≠ 60 →
      (u = w ↔ x.sinceEpoch = y.sinceEpoch) := by
  refine ⟨⟨?_, ?_⟩, ?_, ?_⟩
  · rintro ⟨u, hu⟩
    obtain ⟨-, -, -, hread⟩ := (User.ofJson_eq_ok_iff_of_written ht).mp hu
    exact ((Timestamp.read_eq_ok_iff hx).mp hread).1
  · intro hvalid
    obtain ⟨i, hi⟩ := Timestamp.exists_fallsOn hx hvalid
    exact ⟨⟨id, name, email, i⟩, (User.ofJson_eq_ok_iff_of_written ht).mpr
      ⟨rfl, rfl, rfl, (Timestamp.read_eq_ok_iff hx).mpr ⟨hvalid, hi⟩⟩⟩
  · intro u hu
    obtain ⟨hid, hname, hemail, hread⟩ := (User.ofJson_eq_ok_iff_of_written ht).mp hu
    exact ⟨hid, hname, hemail, ((Timestamp.read_eq_ok_iff hx).mp hread).2⟩
  · intro u w hu hw hsecond hsecond'
    obtain ⟨hid, hname, hemail, hread⟩ := (User.ofJson_eq_ok_iff_of_written ht).mp hu
    obtain ⟨hid', hname', hemail', hread'⟩ := (User.ofJson_eq_ok_iff_of_written ht').mp hw
    obtain ⟨hvalid, hfalls⟩ := (Timestamp.read_eq_ok_iff hx).mp hread
    obtain ⟨hvalid', hfalls'⟩ := (Timestamp.read_eq_ok_iff hy).mp hread'
    rw [User.eq_iff_createdAt (hid.trans hid'.symm) (hname.trans hname'.symm)
      (hemail.trans hemail'.symm)]
    exact Timestamp.eq_iff_of_fallsOn (Nat.lt_of_le_of_ne hvalid.second hsecond)
      (Nat.lt_of_le_of_ne hvalid'.second hsecond') hfalls hfalls'

/-- Two notations of one moment, which lies in UTC on the last day before year 0. -/
theorem created_before_year_zero :
    ∃ u, User.ofJson "[\"\",\"\",\"\",\"0000-01-01T00:30:00.1234567899+01:00\"]" = .ok u ∧
      User.ofJson "[\"\",\"\",\"\",\"0000-01-01T00:29:00.123456789+00:59\"]" = .ok u ∧
      Date.ofDays (u.createdAt.seconds / 86400) = ⟨-1, 12, 31⟩ ∧
      u.createdAt.nanos = 123456789 := by
  have hx : Timestamp.Text ⟨0, 1, 1, 0, 30, 0, "1234567899".toList, ⟨false, 1, 0⟩⟩
      "0000-01-01T00:30:00.1234567899+01:00".toList :=
    ⟨"0000".toList, "01".toList, "01".toList, "00".toList, "30".toList, "00".toList,
      ".1234567899".toList, "+01:00".toList, by decide, by decide, by decide, by decide, by decide,
      by decide, .digits (by decide),
      @Offset.Text.ahead _ _ "01".toList "00".toList (by decide) (by decide), rfl⟩
  have hy : Timestamp.Text ⟨0, 1, 1, 0, 29, 0, "123456789".toList, ⟨false, 0, 59⟩⟩
      "0000-01-01T00:29:00.123456789+00:59".toList :=
    ⟨"0000".toList, "01".toList, "01".toList, "00".toList, "29".toList, "00".toList,
      ".123456789".toList, "+00:59".toList, by decide, by decide, by decide, by decide, by decide,
      by decide, .digits (by decide),
      @Offset.Text.ahead _ _ "00".toList "59".toList (by decide) (by decide), rfl⟩
  have ht := User.written_array "" "" "" "0000-01-01T00:30:00.1234567899+01:00".toList
  have ht' := User.written_array "" "" "" "0000-01-01T00:29:00.123456789+00:59".toList
  obtain ⟨haccepted, hfields, hequal⟩ := created_at_read_by_calendar hx hy ht ht'
  obtain ⟨haccepted', -, -⟩ := created_at_read_by_calendar hy hx ht' ht
  obtain ⟨u, hu⟩ := haccepted.mpr (by decide)
  obtain ⟨w, hw⟩ := haccepted'.mpr (by decide)
  obtain ⟨-, -, -, hseconds, hnanos, -⟩ := hfields u hu
  have hsame : u = w := by
    rw [hequal u w hu hw (by decide) (by decide)]
    simp only [Timestamp.sinceEpoch, Timestamp.utcMinutes, Timestamp.days, Date.ordinal_epoch]
    decide
  subst hsame
  refine ⟨u, hu, hw, ?_, hnanos⟩
  rw [hseconds, Timestamp.utcMinutes, Timestamp.days, Date.ordinal_epoch]
  decide

end UserDirectory
