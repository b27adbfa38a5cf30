import Mathlib.Data.List.Basic
import UserDirectory.Application
import UserDirectory.Failure
import UserDirectory.Proofs.Records
import UserDirectory.Proofs.Text.Quoted

/-!
# Display texts are unambiguous

What is displayed says what it was made of. A line of the log is one line, whatever the id in it; a
record is told from its display text, and a setting and its value from either text of a failure.

Fixed parts are cut off from the left, a quoted part ends where it says (`Quoted.quote_append_inj`).
Only the key of a setting stands bare before its value. There the opening quote decides: it follows
a blank, and a quote inside the value never does (`bare_append_quote_inj`).
-/

namespace UserDirectory

/-! ## Lines of the log -/

/-- A log as it is written: its lines, each with an end. -/
def writtenLog (entries : List LogEntry) : List Char := entries.flatMap fun e => e.text ++ ['\n']

/-- The characters that break a line. -/
def lineBreaks : List Char :=
  ['\n', '\x0b', '\x0c', '\r', Char.ofNat 0x85, Char.ofNat 0x2028, Char.ofNat 0x2029]

theorem hidden_of_mem_lookup {id : String} {c : Char} (h : c ∈ (LogEntry.lookup id).text) :
    Quoted.hidden c = false := by
  rcases List.mem_append.mp h with h | h
  · exact Quoted.hidden_of_all (by decide) h
  · exact Quoted.hidden_of_mem_quote h

theorem lineBreak_notMem_lookup {id : String} {c : Char} (h : c ∈ (LogEntry.lookup id).text) :
    c ∉ lineBreaks := by
  have hall : lineBreaks.all Quoted.hidden = true := by decide +kernel
  intro hbreak
  have hvisible := hidden_of_mem_lookup h
  rw [List.all_eq_true.mp hall c hbreak] at hvisible
  cases hvisible

theorem lookup_text_injective : Function.Injective fun id => (LogEntry.lookup id).text := by
  intro id id' h
  exact Quoted.ofString_injective (List.append_cancel_left h)

/-- Lines without an end of their own are the lines of the log they are written to. -/
theorem splitOn_writtenLog {entries : List LogEntry} (h : ∀ e ∈ entries, '\n' ∉ e.text) :
    (writtenLog entries).splitOn '\n' = entries.map LogEntry.text ++ [[]] := by
  induction entries with
  | nil => rfl
  | cons e entries ih =>
    rw [List.forall_mem_cons] at h
    have hline : e.text.splitOnP (· == '\n') = [e.text] := by
      refine List.splitOnP_eq_singleton fun c hc => ?_
      exact beq_eq_false_iff_ne.mpr fun heq => h.1 (heq ▸ hc)
    have htext : writtenLog (e :: entries) = e.text ++ '\n' :: writtenLog entries := by
      simp [writtenLog]
    rw [htext, List.splitOn, List.splitOnP_append_cons _ _ (by decide), hline]
    exact congrArg (e.text :: ·) (ih h.2)

/-- Lookups are written one to a line. -/
theorem splitOn_lookups (ids : List String) :
    (writtenLog (ids.map .lookup)).splitOn '\n'
      = ids.map (fun id => (LogEntry.lookup id).text) ++ [[]] := by
  rw [splitOn_writtenLog, List.map_map]
  · rfl
  · rw [List.forall_mem_map]
    exact fun id _ hmem => lineBreak_notMem_lookup hmem (by decide)

theorem writtenLog_lookups_inj {ids ids' : List String} :
    writtenLog (ids.map .lookup) = writtenLog (ids'.map .lookup) ↔ ids = ids' := by
  constructor
  · intro h
    have hlines := splitOn_lookups ids
    rw [h, splitOn_lookups ids'] at hlines
    exact (List.map_injective_iff.mpr lookup_text_injective (List.append_cancel_right hlines)).symm
  · rintro rfl
    rfl

theorem flatMap_log (answers : List Answer) :
    answers.flatMap Answer.log = (answers.flatMap Answer.asked).map .lookup := by
  rw [List.map_flatMap]
  rfl

/-! ## Records -/

theorem Instant.text_injective : Function.Injective Instant.text := by
  intro i i' h
  have hread := i.read_text
  rw [h, i'.read_text] at hread
  exact (Except.ok.inj hread).symm

/-- A user is told from its display text. -/
theorem User.display_injective : Function.Injective User.display := by
  rintro ⟨id, name, email, createdAt⟩ ⟨id', name', email', createdAt'⟩ h
  have htext := String.ofList_injective h
  simp only [User.displayText, List.append_assoc] at htext
  obtain ⟨rfl, hname⟩ := Quoted.ofString_append_inj (List.append_cancel_left htext)
  obtain ⟨rfl, hemail⟩ := Quoted.ofString_append_inj (List.append_cancel_left hname)
  obtain ⟨rfl, htime⟩ := Quoted.ofString_append_inj (List.append_cancel_left hemail)
  obtain rfl := Instant.text_injective (List.append_cancel_right (List.append_cancel_left htime))
  rfl

/-- A status is read back up to what cannot go on with it. -/
theorem signed_append_inj {m n : Int32} {r r' : List Char}
    (h : Digits.signed m.toInt ++ ',' :: r = Digits.signed n.toInt ++ ',' :: r') :
    m = n ∧ r = r' := by
  have hread : ∀ (n : Int32) (r : List Char),
      Json.readInt32 (Digits.signed n.toInt ++ ',' :: r) = .ok (n, ',' :: r) := fun n r =>
    Json.readsExactly_readInt32.complete .nil (Json.int32Value_signed n)
      (Json.delimited_cons (by decide))
  have heq := hread m r
  rw [h, hread n r'] at heq
  obtain ⟨rfl, hr⟩ := Prod.mk.inj (Except.ok.inj heq)
  exact ⟨rfl, (List.cons.inj hr).2.symm⟩

/-- An envelope is told from its display text. -/
theorem Envelope.display_injective : Function.Injective Envelope.display := by
  rintro ⟨status, message⟩ ⟨status', message'⟩ h
  have htext := String.ofList_injective h
  simp only [Envelope.displayText, List.append_assoc] at htext
  obtain ⟨rfl, hrest⟩ := signed_append_inj (List.append_cancel_left htext)
  obtain ⟨rfl, -⟩ := Quoted.ofString_append_inj (List.append_cancel_left hrest)
  rfl

/-! ## Failures -/

/-- What stands between quotes has no quote after a blank, so that it cannot hold the mark that
comes before a quoted text. -/
theorem eq_nil_of_quote_eq {s t u : List Char}
    (h : ':' :: ' ' :: Quoted.quote s = u ++ ':' :: ' ' :: Quoted.quote t) : u = [] := by
  match u with
  | [] => rfl
  | [_] | [_, _] => simp [Quoted.quote] at h
  | _ :: _ :: _ :: u =>
    have htail := (List.cons.inj (List.cons.inj (List.cons.inj h).2).2).2
    have hbody : s.flatMap Quoted.escape
        = (u ++ [':']) ++ ' ' :: '"' :: t.flatMap Quoted.escape := by
      refine @List.append_cancel_right _ _ ['"'] _ (htail.trans ?_)
      simp [Quoted.quote]
    have hchain := Quoted.isChain_flatMap_escape s
    rw [hbody, List.isChain_append, List.isChain_cons_cons] at hchain
    exact absurd (hchain.2.1.1 rfl) (by decide)

/-- A bare text and a quoted one after it are told from the whole. -/
theorem bare_append_quote_inj {p q s t : List Char}
    (h : p ++ ':' :: ' ' :: Quoted.quote s = q ++ ':' :: ' ' :: Quoted.quote t) :
    p = q ∧ s = t := by
  have hbare : p = q := by
    rcases List.append_eq_append_iff.mp h with ⟨u, rfl, hu⟩ | ⟨u, rfl, hu⟩
    · rw [eq_nil_of_quote_eq hu, List.append_nil]
    · rw [eq_nil_of_quote_eq hu, List.append_nil]
  subst hbare
  have hquoted := List.append_cancel_left h
  exact ⟨rfl, Quoted.quote_injective (List.cons.inj (List.cons.inj hquoted).2).2⟩

namespace Failure

/-- A setting and its value are told from the message. -/
theorem message_inj {key value key' value' : String} :
    message (.invalidSetting key value) = message (.invalidSetting key' value') ↔
      key = key' ∧ value = value' := by
  constructor
  · intro h
    have htext := String.ofList_injective h
    simp only [text, List.append_assoc] at htext
    obtain ⟨hkey, hvalue⟩ := bare_append_quote_inj (List.append_cancel_left htext)
    exact ⟨String.toList_inj.mp hkey, String.toList_inj.mp hvalue⟩
  · rintro ⟨rfl, rfl⟩
    rfl

/-- A setting and its value are told from the display text. -/
theorem display_inj {key value key' value' : String} :
    display (.invalidSetting key value) = display (.invalidSetting key' value') ↔
      key = key' ∧ value = value' := by
  constructor
  · intro h
    have htext := String.ofList_injective h
    simp only [displayText, List.append_assoc] at htext
    obtain ⟨hkey, hvalue⟩ := Quoted.ofString_append_inj (List.append_cancel_left htext)
    exact ⟨hkey, (Quoted.ofString_append_inj (List.append_cancel_left hvalue)).1⟩
  · rintro ⟨rfl, rfl⟩
    rfl

end Failure

/-! ## All texts -/

/-- **Display texts are unambiguous, and no line of the log is forged.** A quoted text holds no
control, and different strings are quoted differently. Lookups are written one to a line, without a
line break in it, and the ids are told from what is written. Users, envelopes, and a setting with
its value are told from their display texts, the latter from the message too. -/
theorem display_texts_unambiguous :
    ((∀ s : String, ∀ c ∈ Quoted.ofString s, 0x20 ≤ c.toNat ∧ c.toNat ≠ 0x7F) ∧
      Function.Injective Quoted.ofString) ∧
    ((∀ answers : List Answer, (writtenLog (answers.flatMap Answer.log)).splitOn '\n'
        = (answers.flatMap Answer.asked).map (fun id => (LogEntry.lookup id).text) ++ [[]]) ∧
      (∀ id, ∀ c ∈ (LogEntry.lookup id).text, c ∉ lineBreaks) ∧
      ∀ answers answers' : List Answer,
        writtenLog (answers.flatMap Answer.log) = writtenLog (answers'.flatMap Answer.log) ↔
          answers.flatMap Answer.asked = answers'.flatMap Answer.asked) ∧
    (Function.Injective User.display ∧ Function.Injective Envelope.display) ∧
    ∀ key value key' value' : String,
      (Failure.message (.invalidSetting key value) = Failure.message (.invalidSetting key' value') ↔
        key = key' ∧ value = value') ∧
      (Failure.display (.invalidSetting key value) = Failure.display (.invalidSetting key' value') ↔
        key = key' ∧ value = value') := by
  refine ⟨⟨fun s c hc => Quoted.not_control_of_hidden (Quoted.hidden_of_mem_quote hc),
    Quoted.ofString_injective⟩, ⟨fun answers => ?_, fun id c hc => lineBreak_notMem_lookup hc,
    fun answers answers' => ?_⟩, ⟨User.display_injective, Envelope.display_injective⟩,
    fun key value key' value' => ⟨Failure.message_inj, Failure.display_inj⟩⟩
  · rw [flatMap_log, splitOn_lookups]
  · rw [flatMap_log, flatMap_log, writtenLog_lookups_inj]

/-- An id that looks like the end of a line and another lookup is written to one line with nothing
that breaks it, and is told from the two; a key that ends like a message is told from a value that
begins like one. -/
theorem forged_line_stays_in_one :
    ((writtenLog [.lookup "a\"\nDEBUG b"]).splitOn '\n').length = 2 ∧
    ('\\' ∈ (LogEntry.lookup "a\"\nDEBUG b").text ∧ '\\' ∉ lineBreaks) ∧
    writtenLog [.lookup "a\"\nDEBUG b"] ≠ writtenLog [.lookup "a", .lookup "b"] ∧
    ('\\' ∈ Quoted.ofString "\n" ∧ 0x20 ≤ '\\'.toNat) ∧
    Failure.message (.invalidSetting "A: \"x" "y")
      ≠ Failure.message (.invalidSetting "A" "x: \"y") := by
  obtain ⟨⟨hcontrols, -⟩, ⟨hlines, hbreaks, hids⟩, -, hfailures⟩ := display_texts_unambiguous
  have hmark : '\\' ∈ (LogEntry.lookup "a\"\nDEBUG b").text := by decide
  have hescaped : '\\' ∈ Quoted.ofString "\n" := by decide
  refine ⟨?_, ⟨hmark, hbreaks _ _ hmark⟩, fun h => ?_, ⟨hescaped, (hcontrols _ _ hescaped).1⟩,
    fun h => ?_⟩
  · exact congrArg List.length (hlines [⟨.notFound, ["a\"\nDEBUG b"]⟩])
  · have hasked := (hids [⟨.notFound, ["a\"\nDEBUG b"]⟩] [⟨.notFound, ["a", "b"]⟩]).mp h
    exact absurd hasked (by decide)
  · exact absurd ((hfailures _ _ _ _).1.mp h).1 (by decide)

end UserDirectory
