import UserDirectory.Proofs.LogicalLines

/-!
# Open quotes

A line feed ends a logical line only where no quote is open. Within quotes it is a character like
any other, and so is a `#`; an escape takes the character after it, so that an escaped quote closes
nothing.

* `Written.logicalLines_eq`: lines whose quotes are closed are read one by one, each with the line
  feeds within its quotes
* `logicalLines_of_unclosed`: a quote that nothing closes hides the rest of the file, and nothing of
  it is loaded (`Environment.load_of_unclosed`)
-/

namespace UserDirectory

namespace SettingsFile

/-! ## Quotes -/

/-- The character is a double or a single quote. -/
def IsQuote (c : Char) : Prop := c = '"' ∨ c = '\x27'

namespace IsQuote

variable {quote : Char}

theorem ne_feed (h : IsQuote quote) : quote ≠ '\n' := by
  rcases h with rfl | rfl <;> decide

theorem ne_return (h : IsQuote quote) : quote ≠ '\r' := by
  rcases h with rfl | rfl <;> decide

theorem ne_remark (h : IsQuote quote) : quote ≠ '#' := by
  rcases h with rfl | rfl <;> decide

theorem visible (h : IsQuote quote) : isWhiteSpace quote = false := by
  rcases h with rfl | rfl <;> decide

end IsQuote

/-- The state within quotes, and the one after an escape there. -/
inductive Quotes : Char → LineState → LineState → Prop where
  | weak : Quotes '"' .weak .weakEscape
  | strong : Quotes '\x27' .strong .strongEscape

theorem IsQuote.exists_quotes {quote : Char} (h : IsQuote quote) :
    ∃ within escaped, Quotes quote within escaped := by
  rcases h with rfl | rfl
  · exact ⟨_, _, .weak⟩
  · exact ⟨_, _, .strong⟩

/-- Nothing is open, and a comment may or may not begin. -/
def LineState.Settled (state : LineState) : Prop := state = .complete ∨ state = .blank

namespace Quotes

variable {quote : Char} {within escaped : LineState}

/-- Outside of quotes a quote opens them. -/
theorem step_open (h : Quotes quote within escaped) {state : LineState} (hstate : state.Settled) :
    state.step quote = within := by
  rcases hstate with rfl | rfl <;> cases h <;> decide

theorem step_char (h : Quotes quote within escaped) {c : Char} (hescape : c ≠ '\\')
    (hquote : c ≠ quote) : within.step c = within := by
  cases h <;> simp [LineState.step, hescape, hquote]

theorem step_escape (h : Quotes quote within escaped) : within.step '\\' = escaped := by
  cases h <;> rfl

/-- An escape takes whatever stands after it, even the quote. -/
theorem step_escaped (h : Quotes quote within escaped) (c : Char) : escaped.step c = within := by
  cases h <;> rfl

theorem step_close (h : Quotes quote within escaped) : within.step quote = .complete := by
  cases h <;> rfl

theorem within_ne (h : Quotes quote within escaped) : within ≠ .complete ∧ within ≠ .blank := by
  cases h <;> decide

theorem escaped_ne (h : Quotes quote within escaped) : escaped ≠ .complete ∧ escaped ≠ .blank := by
  cases h <;> decide

end Quotes

/-- Text that stands within quotes: an escape takes the character after it, and nothing else is the
quote. -/
inductive Inside (quote : Char) : List Char → Prop where
  | nil : Inside quote []
  | char {c : Char} {s : List Char} : c ≠ '\\' → c ≠ quote → Inside quote s → Inside quote (c :: s)
  | escape (c : Char) {s : List Char} : Inside quote s → Inside quote ('\\' :: c :: s)

/-- The quotes stay open over the text: none of its characters closes them. -/
def Unclosed (quote : Char) (s : List Char) : Prop :=
  ∀ body rest, Inside quote body → s ≠ body ++ quote :: rest

/-- Text that closes no quotes stands within them, an escape at its end apart. -/
theorem Unclosed.inside {quote : Char} :
    ∀ {s : List Char}, Unclosed quote s →
      Inside quote s ∨ ∃ body, Inside quote body ∧ s = body ++ ['\\']
  | [], _ => .inl .nil
  | c :: s, h => by
    by_cases hescape : c = '\\'
    · subst hescape
      match s with
      | [] => exact .inr ⟨[], .nil, rfl⟩
      | d :: s =>
        have hs : Unclosed quote s := fun body rest hbody heq =>
          h ('\\' :: d :: body) rest (.escape d hbody) (by simp [heq])
        rcases hs.inside with hs | ⟨body, hbody, rfl⟩
        · exact .inl (.escape d hs)
        · exact .inr ⟨_, .escape d hbody, rfl⟩
    · have hquote : c ≠ quote := by
        rintro rfl
        exact h [] s .nil rfl
      have hs : Unclosed quote s := fun body rest hbody heq =>
        h (c :: body) rest (.char hescape hquote hbody) (by simp [heq])
      rcases hs.inside with hs | ⟨body, hbody, rfl⟩
      · exact .inl (.char hescape hquote hs)
      · exact .inr ⟨_, .char hescape hquote hbody, rfl⟩

/-- **Within quotes the machine passes over everything**, line feeds and `#` included. -/
theorem Quotes.passes {quote : Char} {within escaped : LineState}
    (h : Quotes quote within escaped) {body : List Char} (hbody : Inside quote body) :
    within.Passes body within := by
  have hopen := h.within_ne
  induction hbody with
  | nil => exact .nil
  | char hescape hquote _ ih =>
    exact .step_open hopen.2 (h.step_char hescape hquote) hopen.1 ih
  | escape c _ ih =>
    exact .step_open hopen.2 h.step_escape h.escaped_ne.1
      (.step_open h.escaped_ne.2 (h.step_escaped c) hopen.1 ih)

/-- The machine passes over quotes that stay open, and something is open in the end. -/
theorem Quotes.exists_passes {quote : Char} {within escaped : LineState}
    (h : Quotes quote within escaped) {s : List Char} (hs : Unclosed quote s) :
    ∃ next, next ≠ .complete ∧ within.Passes s next := by
  rcases hs.inside with hs | ⟨body, hbody, rfl⟩
  · exact ⟨within, h.within_ne.1, h.passes hs⟩
  · exact ⟨escaped, h.escaped_ne.1,
      (h.passes hbody).append (.step_open h.within_ne.2 h.step_escape h.escaped_ne.1 .nil)⟩

/-! ## Lines whose quotes are closed -/

/-- The character means nothing to a line. -/
structure Plain (c : Char) : Prop where
  ne_escape : c ≠ '\\'
  ne_weak : c ≠ '"'
  ne_strong : c ≠ '\x27'
  ne_remark : c ≠ '#'
  ne_feed : c ≠ '\n'
  ne_return : c ≠ '\r'

/-- A part of a line that leaves nothing open. -/
inductive Item : List Char → Prop where
  | char {c : Char} : Plain c → Item [c]
  | escape {c : Char} : c ≠ '\n' → c ≠ '\r' → Item ['\\', c]
  | quoted {quote : Char} {body : List Char} : IsQuote quote → Inside quote body →
      Item (quote :: (body ++ [quote]))

/-- A line whose quotes are closed. A line feed stands only within them, and so does a `#` that is
not escaped. -/
inductive Closed : List Char → Prop where
  | nil : Closed []
  | item {i s : List Char} : Item i → Closed s → Closed (i ++ s)

theorem Closed.char {c : Char} {s : List Char} (hs : Closed s) (hc : Plain c) : Closed (c :: s) :=
  .item (.char hc) hs

theorem LineState.Settled.step_plain {state : LineState} (h : state.Settled) {c : Char}
    (hc : Plain c) :
    (state.step c).Settled ∧ (isWhiteSpace c = false → state.step c = .complete) := by
  have hopen : LineState.open .complete c = .complete := by
    simp [LineState.open, hc.ne_escape, hc.ne_weak, hc.ne_strong]
  rcases h with rfl | rfl
  · rw [LineState.step, hopen]
    split
    · next hwhite => exact ⟨.inr rfl, fun hvisible => by simp [hvisible] at hwhite⟩
    · exact ⟨.inl rfl, fun _ => rfl⟩
  · exact ⟨.inl hopen, fun _ => hopen⟩

theorem LineState.Settled.step_backslash {state : LineState} (h : state.Settled) :
    state.step '\\' = .escape := by
  rcases h with rfl | rfl <;> decide

/-- The machine passes over a part of a line, and nothing is open after it. -/
theorem Item.exists_passes {i : List Char} (hi : Item i) {state : LineState}
    (hstate : state.Settled) :
    ∃ next, next.Settled ∧ state.Passes i next ∧
      ∀ c, i.getLast? = some c → isWhiteSpace c = false → next = .complete := by
  cases hi with
  | char hc =>
    obtain ⟨hsettled, hvisible⟩ := hstate.step_plain hc
    refine ⟨_, hsettled, .step_char hc.ne_feed hc.ne_remark rfl .nil, fun d hd => ?_⟩
    rwa [← Option.some.inj hd]
  | escape hfeed _ =>
    refine ⟨.complete, .inl rfl, ?_, fun _ _ _ => rfl⟩
    exact .step_char (by decide) (by decide) hstate.step_backslash
      (.cons (by simp) (fun h => absurd h hfeed) .nil)
  | quoted hquote hbody =>
    obtain ⟨within, escaped, hstates⟩ := hquote.exists_quotes
    refine ⟨.complete, .inl rfl, ?_, fun _ _ _ => rfl⟩
    exact .step_char hquote.ne_feed hquote.ne_remark (hstates.step_open hstate)
      ((hstates.passes hbody).append
        (.step_char hquote.ne_feed hquote.ne_remark hstates.step_close .nil))

/-- The machine passes over a line whose quotes are closed, and nothing is open after it. If it ends
visibly, no comment can follow. -/
theorem Closed.exists_passes {s : List Char} (hs : Closed s) {state : LineState}
    (hstate : state.Settled) :
    ∃ next, next.Settled ∧ state.Passes s next ∧
      ∀ c, s.getLast? = some c → isWhiteSpace c = false → next = .complete := by
  induction hs generalizing state with
  | nil => exact ⟨state, hstate, .nil, fun _ h => by cases h⟩
  | @item i s hi _ ih =>
    obtain ⟨mid, hmid, hpasses, hvisible⟩ := hi.exists_passes hstate
    obtain ⟨next, hnext, hpasses', hvisible'⟩ := ih hmid
    refine ⟨next, hnext, hpasses.append hpasses', fun c hc hcvisible => ?_⟩
    rw [List.getLast?_append] at hc
    cases hlast : s.getLast? with
    | none =>
      obtain rfl := List.getLast?_eq_none_iff.mp hlast
      cases hpasses'
      exact hvisible c (by simpa using hc) hcvisible
    | some d =>
      rw [hlast] at hc
      obtain rfl : d = c := by simpa using hc
      exact hvisible' d hlast hcvisible

theorem Closed.isComment_eq_false {s : List Char} (hs : Closed s) : isComment s = false := by
  induction hs with
  | nil => rfl
  | @item i s hi _ ih =>
    have hitem : isComment i = false := by
      cases hi with
      | char hc =>
        rw [isComment_cons]
        split
        · rfl
        · simpa using hc.ne_remark
      | escape _ _ => exact isComment_cons_of_visible (by decide) (by decide) _
      | quoted hquote _ => exact isComment_cons_of_visible hquote.visible hquote.ne_remark _
    exact isComment_append_eq_false hitem (.inl ih)

theorem Closed.getLast?_ne {s : List Char} (hs : Closed s) : s.getLast? ≠ some '\r' := by
  induction hs with
  | nil => simp
  | @item i s hi _ ih =>
    have hitem : i.getLast? ≠ some '\r' := by
      cases hi with
      | char hc => simpa using hc.ne_return
      | escape _ hreturn => simpa using hreturn
      | quoted hquote _ => simpa [List.getLast?_cons] using hquote.ne_return
    rw [List.getLast?_append]
    cases hlast : s.getLast? with
    | none => simpa using hitem
    | some c => simpa [hlast] using ih

/-! ## Files of such lines -/

/-- What may stand before the line feed of a line end. -/
def IsFront (front : List Char) : Prop := front = [] ∨ front = ['\r']

theorem IsFront.feed_notMem {front : List Char} (h : IsFront front) : '\n' ∉ front := by
  rcases h with rfl | rfl <;> decide

theorem IsFront.isComment_eq_false {front : List Char} (h : IsFront front) :
    isComment (front ++ ['\n']) = false := by
  rcases h with rfl | rfl <;> decide

/-- A line end is read to its end, and leaves nothing open. -/
theorem LineState.Settled.run_lineEnd {state : LineState} (h : state.Settled) {front : List Char}
    (hfront : IsFront front) : state.run (front ++ ['\n']) = .reached .complete := by
  rcases h with rfl | rfl <;> rcases hfront with rfl | rfl <;> rfl

/-- What the line end consists of is not a part of the line. -/
theorem trimLineEnd_append {s front : List Char} (hs : s.getLast? ≠ some '\r')
    (hfront : IsFront front) : trimLineEnd (s ++ (front ++ ['\n'])) = s := by
  rw [← List.head?_reverse] at hs
  unfold trimLineEnd
  rcases hfront with rfl | rfl
  · simp only [List.nil_append, List.reverse_append, List.reverse_singleton,
      List.singleton_append]
    split
    · next heq =>
      rw [(List.cons.inj heq).2] at hs
      exact absurd rfl hs
    · next heq => rw [← (List.cons.inj heq).2, List.reverse_reverse]
    · next hno => exact absurd rfl (hno _)
  · simp

/-- The lines of a text that consists of whole lines, whose quotes are closed. -/
inductive Written : List (List Char) → List Char → Prop where
  | nil : Written [] []
  | line {line front text : List Char} {lines : List (List Char)} : Closed line → IsFront front →
      Written lines text → Written (line :: lines) (line ++ (front ++ ['\n']) ++ text)
  /-- A comment begins after a blank, if something visible stands before that. -/
  | remarked {line remark text : List Char} {last : Char} {lines : List (List Char)} :
      Closed line → line.getLast? = some last → isWhiteSpace last = false → '\n' ∉ remark →
      Written lines text →
      Written ((line ++ [' ']) :: lines) (line ++ [' '] ++ ('#' :: remark ++ ['\n']) ++ text)
  | comment {blanks remark text : List Char} {lines : List (List Char)} :
      (∀ c ∈ blanks, isWhiteSpace c = true) → '\n' ∉ blanks → '\n' ∉ remark → Written lines text →
      Written ([] :: lines) (blanks ++ '#' :: remark ++ ['\n'] ++ text)

/-- **Lines whose quotes are closed are read one by one**, each with the line feeds within its
quotes, and the file is read on after them. -/
theorem Written.logicalLinesFrom_eq {lines : List (List Char)} {text : List Char}
    (h : Written lines text) (rest : List UInt8) :
    logicalLinesFrom [] .complete (physicalLines (Utf8.encode text ++ rest))
      = lines ++ logicalLinesFrom [] .complete (physicalLines rest) := by
  induction h with
  | nil => rfl
  | line hline hfront _ ih =>
    obtain ⟨next, hnext, hpasses, -⟩ := hline.exists_passes (.inl rfl)
    have hcomment := isComment_append_eq_false hline.isComment_eq_false
      (.inl hfront.isComment_eq_false)
    rw [Utf8.encode_append, List.append_assoc, logicalLinesFrom_ended hpasses hfront.feed_notMem
      (hnext.run_lineEnd hfront) hcomment, trimLineEnd_append hline.getLast?_ne hfront, ih,
      List.cons_append]
  | @remarked line remark text last lines hline hlast hvisible hremark _ ih =>
    obtain ⟨next, -, hpasses, hcomplete⟩ := hline.exists_passes (.inl rfl)
    obtain rfl := hcomplete last hlast hvisible
    have hblank : LineState.complete.Passes (line ++ [' ']) .blank :=
      hpasses.append (.step_char (by decide) (by decide) rfl .nil)
    have hcomment : isComment (line ++ [' '] ++ ('#' :: remark ++ ['\n'])) = false := by
      rw [List.append_assoc]
      exact isComment_append_eq_false hline.isComment_eq_false
        (.inr ⟨last, List.mem_of_getLast? hlast, hvisible⟩)
    rw [Utf8.encode_append, List.append_assoc, logicalLinesFrom_remarked hblank hremark hcomment,
      ih, List.cons_append]
  | comment hblanks hfeed hremark _ ih =>
    rw [Utf8.encode_append, List.append_assoc, physicalLines_line (by simp [hfeed, hremark]),
      logicalLinesFrom_of_comment (by simpa using isComment_of_blanks hblanks _), ih,
      List.cons_append]

section

variable {file : List UInt8} {lines : List (List Char)} {text : List Char}

theorem Written.logicalLines_eq (h : Written lines text) {rest : List UInt8}
    (hfile : dropMark file = Utf8.encode text ++ rest) :
    logicalLines file = lines ++ logicalLinesFrom [] .complete (physicalLines rest) := by
  rw [logicalLines, hfile, h.logicalLinesFrom_eq]

/-- **A quote that nothing closes hides the rest of the file.** The lines before it are all that is
read, and neither what stands before the quote on its line nor anything after it is a line. -/
theorem logicalLines_of_unclosed (h : Written lines text) {head body : List Char} {quote : Char}
    (hhead : Closed head) (hquote : IsQuote quote) (hbody : Unclosed quote body)
    (hfile : dropMark file = Utf8.encode (text ++ (head ++ quote :: body))) :
    logicalLines file = lines := by
  obtain ⟨within, escaped, hstates⟩ := hquote.exists_quotes
  obtain ⟨mid, hmid, hpasses, -⟩ := hhead.exists_passes (.inl rfl)
  obtain ⟨next, hopen, hpasses'⟩ := hstates.exists_passes hbody
  have hall : LineState.complete.Passes (head ++ quote :: body) next :=
    hpasses.append (.step_char hquote.ne_feed hquote.ne_remark (hstates.step_open hmid) hpasses')
  have hcomment : isComment (head ++ quote :: body) = false :=
    isComment_append_eq_false hhead.isComment_eq_false
      (.inl (isComment_cons_of_visible hquote.visible hquote.ne_remark _))
  rw [Utf8.encode_append] at hfile
  rw [h.logicalLines_eq hfile, logicalLinesFrom_unended hall hopen hcomment, List.append_nil]

end

/-- The blank and the `#` stand in quotes, and the port in quotes that nothing closes. -/
example : logicalLines (Utf8.encode (chars "HOST=\"a\nb # c\"\nPORT='1\nWORKERS=2\n"))
    = [chars "HOST=\"a\nb # c\""] := by decide +kernel

end SettingsFile

open SettingsFile

/-- Lines that quotes hide are not loaded. -/
theorem Environment.load_of_unclosed (env : Environment) {lines : List (List Char)}
    {text head body : List Char} {quote : Char} {file : List UInt8} (hlines : Written lines text)
    (hhead : Closed head) (hquote : IsQuote quote) (hbody : Unclosed quote body)
    (hfile : dropMark file = Utf8.encode (text ++ (head ++ quote :: body))) :
    env.load file = env.loadLines lines := by
  rw [load, logicalLines_of_unclosed hlines hhead hquote hbody hfile]

end UserDirectory
