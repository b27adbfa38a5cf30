import UserDirectory.Proofs.Loading

/-!
# Logical lines over physical ones

A logical line goes on over physical ones as long as something is open where they end. A text that
the machine passes over (`LineState.Passes`) is a part of one logical line, on however many physical
lines it stands (`exists_logicalLinesFrom_eq`). What follows it decides what becomes of the line:

* `logicalLinesFrom_ended`: a line end, and it is read
* `logicalLinesFrom_remarked`: a comment, and it is read up to there
* `logicalLinesFrom_unended`: the end of the file with something open, and it is lost
-/

namespace UserDirectory

namespace SettingsFile

/-! ## Runs of the machine -/

/-- Where a line leads that begins with the given characters, when its rest leads there. -/
def LineEnd.after (s : List Char) : LineEnd → LineEnd
  | .comment kept => .comment (s ++ kept)
  | .reached state => .reached state

theorem LineEnd.after_after (s t : List Char) (e : LineEnd) :
    (e.after t).after s = e.after (s ++ t) := by
  cases e with
  | comment kept => simp [after]
  | reached state => rfl

theorem LineEnd.after_eq_reached_iff {s : List Char} {e : LineEnd} {state : LineState} :
    e.after s = .reached state ↔ e = .reached state := by
  cases e with
  | comment kept => simp [after]
  | reached state => rfl

namespace LineState

theorem run_cons {state : LineState} {c : Char} (h : ¬ (state = .blank ∧ c = '#'))
    (s : List Char) : state.run (c :: s) = ((state.step c).run s).after [c] := by
  rw [run, if_neg h]
  cases (state.step c).run s <;> rfl

/-- What follows a text is run over from the state that the text leads to. -/
theorem run_append {state next : LineState} {s : List Char} (h : state.run s = .reached next)
    (t : List Char) : state.run (s ++ t) = (next.run t).after s := by
  induction s generalizing state with
  | nil =>
    obtain rfl := LineEnd.reached.inj h
    rw [List.nil_append]
    cases state.run t <;> rfl
  | cons c s ih =>
    by_cases hcomment : state = .blank ∧ c = '#'
    · rw [run, if_pos hcomment] at h
      cases h
    · rw [run_cons hcomment, LineEnd.after_eq_reached_iff] at h
      rw [List.cons_append, run_cons hcomment, ih h, LineEnd.after_after, List.singleton_append]

/-- The machine passes over the text: no comment begins in it, and something is open after each of
its line feeds. -/
inductive Passes : LineState → List Char → LineState → Prop where
  | nil {state : LineState} : Passes state [] state
  | cons {state next : LineState} {c : Char} {s : List Char} : ¬ (state = .blank ∧ c = '#') →
      (c = '\n' → state.step c ≠ .complete) → Passes (state.step c) s next →
      Passes state (c :: s) next

/-- A character may be passed over that leaves something open. -/
theorem Passes.step_open {state mid next : LineState} {c : Char} {s : List Char}
    (hstart : state ≠ .blank) (hstep : state.step c = mid) (hopen : mid ≠ .complete)
    (hs : mid.Passes s next) : state.Passes (c :: s) next := by
  subst hstep
  exact .cons (fun h => hstart h.1) (fun _ => hopen) hs

/-- Outside of line ends and comments any character may be passed over. -/
theorem Passes.step_char {state mid next : LineState} {c : Char} {s : List Char} (hfeed : c ≠ '\n')
    (hremark : c ≠ '#') (hstep : state.step c = mid) (hs : mid.Passes s next) :
    state.Passes (c :: s) next := by
  subst hstep
  exact .cons (fun h => hremark h.2) (fun h => absurd h hfeed) hs

theorem Passes.append {state mid next : LineState} {s t : List Char} (hs : Passes state s mid)
    (ht : Passes mid t next) : Passes state (s ++ t) next := by
  induction hs with
  | nil => exact ht
  | cons hcomment hfeed _ ih => exact .cons hcomment hfeed (ih ht)

end LineState

/-! ## Physical lines -/

theorem feed_notMem_encode {s : List Char} (hs : '\n' ∉ s) : 0x0A ∉ Utf8.encode s :=
  fun h => hs ((Utf8.asciiByte_mem_encode_iff (c := '\n') (by decide)).mp h)

/-- A line feed ends the physical line. -/
theorem physicalLines_line {s : List Char} (hs : '\n' ∉ s) (rest : List UInt8) :
    physicalLines (Utf8.encode (s ++ ['\n']) ++ rest)
      = Utf8.encode (s ++ ['\n']) :: physicalLines rest := by
  have hfeed := feed_notMem_encode hs
  rw [Utf8.encode_append, List.append_assoc]
  show physicalLines (_ ++ 0x0A :: rest) = (_ ++ [0x0A]) :: _
  generalize Utf8.encode s = head at hfeed ⊢
  induction head with
  | nil => simp [physicalLines]
  | cons b head ih =>
    obtain ⟨hb, hhead⟩ := List.ne_and_not_mem_of_not_mem_cons hfeed
    rw [List.cons_append, physicalLines, if_neg (Ne.symm hb), ih hhead]
    rfl

/-- The end of the file ends the physical line, if there is any. -/
theorem physicalLines_last {s : List Char} (hs : '\n' ∉ s) :
    physicalLines (Utf8.encode s) = [] ∨ physicalLines (Utf8.encode s) = [Utf8.encode s] := by
  have hfeed := feed_notMem_encode hs
  generalize Utf8.encode s = line at hfeed ⊢
  induction line with
  | nil => exact .inl rfl
  | cons b line ih =>
    obtain ⟨hb, hline⟩ := List.ne_and_not_mem_of_not_mem_cons hfeed
    rw [physicalLines, if_neg (Ne.symm hb)]
    cases line with
    | nil => exact .inr rfl
    | cons b' line =>
      have hne : physicalLines (b' :: line) ≠ [] := physicalLines_ne_nil (by simp)
      rw [(ih hline).resolve_left hne]
      exact .inr rfl

/-! ## Comments -/

theorem isComment_cons (c : Char) (s : List Char) :
    isComment (c :: s) = if isWhiteSpace c then isComment s else decide (c = '#') := by
  rw [isComment, List.dropWhile_cons]
  split
  · rfl
  · simp

theorem isComment_cons_of_visible {c : Char} (hc : isWhiteSpace c = false) (hremark : c ≠ '#')
    (s : List Char) : isComment (c :: s) = false := by
  rw [isComment_cons, hc]
  simpa using hremark

theorem isComment_of_blanks {blanks : List Char} (h : ∀ c ∈ blanks, isWhiteSpace c = true)
    (s : List Char) : isComment (blanks ++ '#' :: s) = true := by
  induction blanks with
  | nil => rfl
  | cons c blanks ih =>
    obtain ⟨hc, hblanks⟩ := List.forall_mem_cons.mp h
    rw [List.cons_append, isComment_cons, if_pos hc, ih hblanks]

/-- What follows a text makes it a comment only if there is nothing to be seen of the text. -/
theorem isComment_append_eq_false {s t : List Char} (hs : isComment s = false)
    (ht : isComment t = false ∨ ∃ c ∈ s, isWhiteSpace c = false) :
    isComment (s ++ t) = false := by
  induction s with
  | nil => simpa using ht
  | cons c s ih =>
    rw [isComment_cons] at hs
    rw [List.cons_append, isComment_cons]
    by_cases hc : isWhiteSpace c = true
    · rw [if_pos hc] at hs ⊢
      exact ih hs (by simpa [hc] using ht)
    · rw [if_neg hc] at hs ⊢
      exact hs

/-- A comment is one from its first characters on. -/
theorem isComment_eq_false_of_append {s t : List Char} (h : isComment (s ++ t) = false) :
    isComment s = false := by
  induction s with
  | nil => rfl
  | cons c s ih =>
    rw [List.cons_append, isComment_cons] at h
    rw [isComment_cons]
    by_cases hc : isWhiteSpace c = true
    · rw [if_pos hc] at h ⊢
      exact ih h
    · rwa [if_neg hc] at h ⊢

/-! ## Logical lines -/

section

variable {part s kept : List Char} {state next : LineState} {lines : List (List UInt8)}

theorem logicalLinesFrom_of_comment (h : isComment (part ++ s) = true) :
    logicalLinesFrom part state (Utf8.encode s :: lines)
      = [] :: logicalLinesFrom [] .complete lines := by
  rw [logicalLinesFrom, Utf8.decode?_eq_some_iff.mpr rfl]
  exact if_pos h

theorem logicalLinesFrom_of_remark (h : isComment (part ++ s) = false)
    (hrun : state.run s = .comment kept) :
    logicalLinesFrom part state (Utf8.encode s :: lines)
      = (part ++ kept) :: logicalLinesFrom [] .complete lines := by
  rw [logicalLinesFrom, Utf8.decode?_eq_some_iff.mpr rfl]
  simp only [h, hrun, Bool.false_eq_true, if_false]

theorem logicalLinesFrom_of_complete (h : isComment (part ++ s) = false)
    (hrun : state.run s = .reached .complete) :
    logicalLinesFrom part state (Utf8.encode s :: lines)
      = trimLineEnd (part ++ s) :: logicalLinesFrom [] .complete lines := by
  rw [logicalLinesFrom, Utf8.decode?_eq_some_iff.mpr rfl]
  simp only [h, hrun, Bool.false_eq_true, if_false]

/-- The next physical line belongs to the same logical line if something is open. -/
theorem logicalLinesFrom_of_open (h : isComment (part ++ s) = false)
    (hrun : state.run s = .reached next) (hopen : next ≠ .complete) :
    logicalLinesFrom part state (Utf8.encode s :: lines)
      = logicalLinesFrom (part ++ s) next lines := by
  rw [logicalLinesFrom, Utf8.decode?_eq_some_iff.mpr rfl]
  simp only [h, hrun, Bool.false_eq_true, if_false]

end

/-- **What the machine passes over is a part of one logical line.** Its physical lines are used up,
except for the characters after the last line feed (`pre'`), and nothing is read from them. -/
theorem exists_logicalLinesFrom_eq {part pre text : List Char} {state mid next : LineState}
    (hpre : '\n' ∉ pre) (hmid : state.run pre = .reached mid) (htext : mid.Passes text next)
    (hcomment : isComment (part ++ (pre ++ text)) = false) :
    ∃ part' pre' state', part' ++ pre' = part ++ (pre ++ text) ∧ '\n' ∉ pre' ∧
      state'.run pre' = .reached next ∧
      ∀ rest, logicalLinesFrom part state (physicalLines (Utf8.encode (pre ++ text) ++ rest))
        = logicalLinesFrom part' state' (physicalLines (Utf8.encode pre' ++ rest)) := by
  induction htext generalizing part pre state with
  | nil => exact ⟨part, pre, state, by simp, hpre, hmid, by simp⟩
  | @cons mid next c s hstart hfeed _ ih =>
    have hsplit : pre ++ c :: s = (pre ++ [c]) ++ s := by simp
    rw [hsplit] at hcomment ⊢
    have hrun : state.run (pre ++ [c]) = .reached (mid.step c) := by
      rw [LineState.run_append hmid, LineState.run_cons hstart]
      rfl
    by_cases hc : c = '\n'
    · subst hc
      rw [← List.append_assoc] at hcomment
      obtain ⟨part', pre', state', hwhole, hpre', hrun', hlines⟩ :=
        @ih (part ++ (pre ++ ['\n'])) [] (mid.step '\n') List.not_mem_nil rfl hcomment
      refine ⟨part', pre', state', by simpa using hwhole, hpre', hrun', fun rest => ?_⟩
      rw [Utf8.encode_append, List.append_assoc, physicalLines_line hpre,
        logicalLinesFrom_of_open (isComment_eq_false_of_append hcomment) hrun (hfeed rfl)]
      exact hlines rest
    · exact ih (by simp [hpre, Ne.symm hc]) hrun hcomment

section

variable {text : List Char} {next : LineState}

/-- The same for a logical line from its start on. -/
theorem exists_logicalLinesFrom_nil_eq (htext : LineState.complete.Passes text next)
    (hcomment : isComment text = false) :
    ∃ part pre state, part ++ pre = text ∧ '\n' ∉ pre ∧ state.run pre = .reached next ∧
      ∀ rest, logicalLinesFrom [] .complete (physicalLines (Utf8.encode text ++ rest))
        = logicalLinesFrom part state (physicalLines (Utf8.encode pre ++ rest)) :=
  @exists_logicalLinesFrom_eq [] [] text .complete .complete next List.not_mem_nil rfl htext
    hcomment

/-- The rest of a physical line is read together with what stands before it on that line. -/
theorem exists_logicalLinesFrom_cons_eq (htext : LineState.complete.Passes text next)
    {tail : List Char} (htail : '\n' ∉ tail)
    (hcomment : isComment (text ++ (tail ++ ['\n'])) = false) :
    ∃ part pre state, part ++ pre = text ∧
      state.run (pre ++ (tail ++ ['\n'])) = (next.run (tail ++ ['\n'])).after pre ∧
      ∀ rest, logicalLinesFrom [] .complete
          (physicalLines (Utf8.encode (text ++ (tail ++ ['\n'])) ++ rest))
        = logicalLinesFrom part state
            (Utf8.encode (pre ++ (tail ++ ['\n'])) :: physicalLines rest) := by
  obtain ⟨part, pre, state, hwhole, hpre, hrun, hlines⟩ :=
    exists_logicalLinesFrom_nil_eq htext (isComment_eq_false_of_append hcomment)
  refine ⟨part, pre, state, hwhole, LineState.run_append hrun _, fun rest => ?_⟩
  have hline : '\n' ∉ pre ++ tail := by simp [hpre, htail]
  rw [Utf8.encode_append, List.append_assoc, hlines, ← List.append_assoc, ← Utf8.encode_append,
    ← List.append_assoc, physicalLines_line hline]

/-- A line end that is read where nothing is open ends the logical line. -/
theorem logicalLinesFrom_ended (htext : LineState.complete.Passes text next) {front : List Char}
    (hfront : '\n' ∉ front) (hend : next.run (front ++ ['\n']) = .reached .complete)
    (hcomment : isComment (text ++ (front ++ ['\n'])) = false) (rest : List UInt8) :
    logicalLinesFrom [] .complete
        (physicalLines (Utf8.encode (text ++ (front ++ ['\n'])) ++ rest))
      = trimLineEnd (text ++ (front ++ ['\n']))
        :: logicalLinesFrom [] .complete (physicalLines rest) := by
  obtain ⟨part, pre, state, rfl, hrun, hlines⟩ :=
    exists_logicalLinesFrom_cons_eq htext hfront hcomment
  rw [List.append_assoc] at hcomment
  rw [hend] at hrun
  rw [hlines, logicalLinesFrom_of_complete hcomment hrun, List.append_assoc]

/-- A `#` after a blank begins a comment, and the logical line ends before it. -/
theorem logicalLinesFrom_remarked (htext : LineState.complete.Passes text .blank)
    {remark : List Char} (hremark : '\n' ∉ remark)
    (hcomment : isComment (text ++ ('#' :: remark ++ ['\n'])) = false) (rest : List UInt8) :
    logicalLinesFrom [] .complete
        (physicalLines (Utf8.encode (text ++ ('#' :: remark ++ ['\n'])) ++ rest))
      = text :: logicalLinesFrom [] .complete (physicalLines rest) := by
  obtain ⟨part, pre, state, rfl, hrun, hlines⟩ :=
    exists_logicalLinesFrom_cons_eq htext (List.not_mem_cons_of_ne_of_not_mem (by decide) hremark)
      hcomment
  have hstart : LineState.blank.run ('#' :: remark ++ ['\n']) = .comment [] := rfl
  rw [List.append_assoc] at hcomment
  rw [hstart, LineEnd.after, List.append_nil] at hrun
  rw [hlines, logicalLinesFrom_of_remark hcomment hrun]

/-- Where the file ends with something open, there is no logical line. -/
theorem logicalLinesFrom_unended (htext : LineState.complete.Passes text next)
    (hopen : next ≠ .complete) (hcomment : isComment text = false) :
    logicalLinesFrom [] .complete (physicalLines (Utf8.encode text)) = [] := by
  obtain ⟨part, pre, state, hwhole, hpre, hrun, hlines⟩ :=
    exists_logicalLinesFrom_nil_eq htext hcomment
  have hlast := hlines []
  rw [List.append_nil, List.append_nil] at hlast
  rw [hlast]
  rcases physicalLines_last hpre with hnone | hone
  · rw [hnone]
    rfl
  · rw [hone, logicalLinesFrom_of_open (by rwa [hwhole]) hrun hopen]
    rfl

end

end SettingsFile

end UserDirectory
