import UserDirectory.Json.Number

/-!
# Passing over values

Members that a record does not know are passed over: their values have to be well-formed, at any
depth, and are otherwise ignored.

## How it works

The reader is a machine. Its state is what it expects next, the brackets that are still open and
the text that is left (`Scan`); `Scan.step` takes it one token further. Since the open brackets are
a list, the depth of a value is bounded by nothing but its length.

## Termination

Every step makes the text shorter, except that the first item of an array is looked at before it is
read; so twice the length of the text, plus one where a bracket has just been opened, decreases.
-/

namespace UserDirectory.Json

/-- An open bracket. -/
inductive Frame where
  | array
  | object
  deriving DecidableEq, Repr

/-- The character that closes the bracket. -/
def Frame.close : Frame → Char
  | .array => ']'
  | .object => '}'

/-- What is expected next. -/
inductive Expect where
  /-- A value. -/
  | value
  /-- The first item after an open bracket, or the closing one. -/
  | first
  /-- A comma or the closing bracket; after the outermost value, nothing. -/
  | more
  deriving DecidableEq, Repr

/-- A state of the machine. -/
structure Scan where
  expect : Expect
  /-- Open brackets, the innermost first. -/
  stack : List Frame
  text : List Char

/-- What a step leads to. -/
inductive Progress where
  /-- The value has ended; the text after it. -/
  | finished (rest : List Char)
  | pending (scan : Scan)

/-! ## Leaves -/

/-- Passes over the letters of a word. -/
def skipWord : (word : List Char) → List Char → Except Error (List Char)
  | [], s => .ok s
  | _ :: _, [] => .error .eof
  | w :: word, c :: s => if c = w then skipWord word s else .error .malformed

/-- Passes over a value that is neither an array nor an object and begins with `c`. -/
def skipScalar (c : Char) (s : List Char) : Except Error (List Char) :=
  if c = '"' then skipString s
  else if c = '-' then skipNumber s
  else if c.isDigit then skipNumber (c :: s)
  else if c = 'n' then skipWord ['u', 'l', 'l'] s
  else if c = 't' then skipWord ['r', 'u', 'e'] s
  else if c = 'f' then skipWord ['a', 'l', 's', 'e'] s
  else .error .malformed

/-- Reads the colon between a key and its value. -/
def colon (s : List Char) : Except Error (List Char) :=
  match skipBlanks s with
  | [] => .error .eof
  | c :: s => if c = ':' then .ok s else .error .malformed

/-- Passes over a key and the colon after it. -/
def skipKey (s : List Char) : Except Error (List Char) :=
  match skipBlanks s with
  | [] => .error .eof
  | c :: s =>
    if c = '"' then
      match skipString s with
      | .error e => .error e
      | .ok s => colon s
    else .error .malformed

/-! ## The machine -/

/-- Goes on to an item of the innermost bracket: a value, in an object after its key. -/
def Frame.item (frame : Frame) (stack : List Frame) (s : List Char) : Except Error Progress :=
  match frame with
  | .array => .ok (.pending ⟨.value, .array :: stack, s⟩)
  | .object =>
    match skipKey s with
    | .error e => .error e
    | .ok s => .ok (.pending ⟨.value, .object :: stack, s⟩)

/-- One step of the machine. -/
def Scan.step : Scan → Except Error Progress
  | ⟨.value, stack, s⟩ =>
    match skipBlanks s with
    | [] => .error .eof
    | c :: s =>
      if c = '[' then .ok (.pending ⟨.first, .array :: stack, s⟩)
      else if c = '{' then .ok (.pending ⟨.first, .object :: stack, s⟩)
      else
        match skipScalar c s with
        | .error e => .error e
        | .ok s => .ok (.pending ⟨.more, stack, s⟩)
  | ⟨_, [], s⟩ => .ok (.finished s)
  | ⟨.first, frame :: stack, s⟩ =>
    match skipBlanks s with
    | [] => .error .eof
    | c :: s =>
      if c = frame.close then .ok (.pending ⟨.more, stack, s⟩)
      else frame.item stack (c :: s)
  | ⟨.more, frame :: stack, s⟩ =>
    match skipBlanks s with
    | [] => .error .eof
    | c :: s =>
      if c = frame.close then .ok (.pending ⟨.more, stack, s⟩)
      else if c = ',' then frame.item stack s
      else .error .malformed

/-! ## Every step makes progress -/

theorem skipWord_length {word s r : List Char} (h : skipWord word s = .ok r) :
    r.length ≤ s.length := by
  induction word generalizing s with
  | nil =>
    simp only [skipWord, Except.ok.injEq] at h
    simp [h]
  | cons w word ih =>
    cases s with
    | nil => simp [skipWord] at h
    | cons c s =>
      rw [skipWord] at h
      split at h
      · have := ih h
        simp only [List.length_cons]
        omega
      · simp at h

theorem skipScalar_length {c : Char} {s r : List Char} (h : skipScalar c s = .ok r) :
    r.length ≤ s.length := by
  unfold skipScalar at h
  split at h
  · exact Nat.le_of_lt (skipString_length h)
  · split at h
    · exact Nat.le_of_lt (skipNumber_length h)
    · split at h
      · have := skipNumber_length h
        simp only [List.length_cons] at this
        omega
      · split at h
        · exact skipWord_length h
        · split at h
          · exact skipWord_length h
          · split at h
            · exact skipWord_length h
            · simp at h

theorem skipBlanks_cons_length {c : Char} {s r : List Char} (h : skipBlanks s = c :: r) :
    r.length < s.length := by
  have := skipBlanks_length s
  rw [h, List.length_cons] at this
  omega

theorem colon_length {s r : List Char} (h : colon s = .ok r) : r.length < s.length := by
  unfold colon at h
  split at h
  · simp at h
  · next hb =>
    have := skipBlanks_cons_length hb
    split at h
    · simp only [Except.ok.injEq] at h
      rw [← h]
      exact this
    · simp at h

theorem skipKey_length {s r : List Char} (h : skipKey s = .ok r) : r.length < s.length := by
  unfold skipKey at h
  split at h
  · simp at h
  · next hb =>
    have := skipBlanks_cons_length hb
    split at h
    · split at h
      · simp at h
      · next hs =>
        have := skipString_length hs
        have := colon_length h
        omega
    · simp at h

/-- What is left to do. -/
def Scan.size (scan : Scan) : Nat :=
  2 * scan.text.length + (if scan.expect = .first then 1 else 0)

theorem Frame.item_size {frame : Frame} {stack : List Frame} {s : List Char} {scan : Scan}
    (h : frame.item stack s = .ok (.pending scan)) : scan.size ≤ 2 * s.length := by
  unfold Frame.item at h
  split at h
  · simp only [Except.ok.injEq, Progress.pending.injEq] at h
    simp [← h, Scan.size]
  · split at h
    · simp at h
    · next hk =>
      have := skipKey_length hk
      simp only [Except.ok.injEq, Progress.pending.injEq] at h
      simp [← h, Scan.size]
      omega

/-- A step leaves less to do. -/
theorem Scan.step_size {scan scan' : Scan} (h : scan.step = .ok (.pending scan')) :
    scan'.size < scan.size := by
  unfold Scan.step at h
  split at h
  · split at h
    · simp at h
    · next hb =>
      have := skipBlanks_cons_length hb
      split at h
      · simp only [Except.ok.injEq, Progress.pending.injEq] at h
        simp [← h, Scan.size]
        omega
      · split at h
        · simp only [Except.ok.injEq, Progress.pending.injEq] at h
          simp [← h, Scan.size]
          omega
        · split at h
          · simp at h
          · next hs =>
            have := skipScalar_length hs
            simp only [Except.ok.injEq, Progress.pending.injEq] at h
            simp [← h, Scan.size]
            omega
  · simp at h
  · split at h
    · simp at h
    · next hb =>
      have := skipBlanks_cons_length hb
      split at h
      · simp only [Except.ok.injEq, Progress.pending.injEq] at h
        simp [← h, Scan.size]
        omega
      · have := Frame.item_size h
        simp only [List.length_cons] at this
        simp [Scan.size] at *
        omega
  · split at h
    · simp at h
    · next hb =>
      have := skipBlanks_cons_length hb
      split at h
      · simp only [Except.ok.injEq, Progress.pending.injEq] at h
        simp [← h, Scan.size]
        omega
      · split at h
        · have := Frame.item_size h
          simp [Scan.size] at *
          omega
        · simp at h

/-- Runs the machine until the value has ended. -/
def Scan.run (scan : Scan) : Except Error (List Char) :=
  match _h : scan.step with
  | .error e => .error e
  | .ok (.finished rest) => .ok rest
  | .ok (.pending scan') => scan'.run
termination_by scan.size
decreasing_by exact Scan.step_size _h

/-- Passes over a value. -/
def skipValue (s : List Char) : Except Error (List Char) := Scan.run ⟨.value, [], s⟩

theorem Scan.step_finished {scan : Scan} {rest : List Char}
    (h : scan.step = .ok (.finished rest)) : rest = scan.text := by
  unfold Scan.step at h
  split at h
  · split at h
    · simp at h
    · split at h
      · simp at h
      · split at h
        · simp at h
        · split at h <;> simp at h
  · simp only [Except.ok.injEq, Progress.finished.injEq] at h
    exact h.symm
  · split at h
    · simp at h
    · split at h
      · simp at h
      · unfold Frame.item at h
        split at h
        · simp at h
        · split at h <;> simp at h
  · split at h
    · simp at h
    · split at h
      · simp at h
      · split at h
        · unfold Frame.item at h
          split at h
          · simp at h
          · split at h <;> simp at h
        · simp at h

theorem Scan.run_length {scan : Scan} {rest : List Char} (h : scan.run = .ok rest) :
    2 * rest.length ≤ scan.size := by
  induction hn : scan.size using Nat.strongRecOn generalizing scan with
  | _ n ih =>
    rw [Scan.run] at h
    split at h
    · simp at h
    · next hs =>
      have := Scan.step_finished hs
      simp only [Except.ok.injEq] at h
      rw [← h, this, ← hn, Scan.size]
      omega
    · next hs =>
      have hlt := Scan.step_size hs
      have := ih _ (by omega) h rfl
      omega

/-- Passing over a value does not make the text longer. -/
theorem skipValue_length {s r : List Char} (h : skipValue s = .ok r) : r.length ≤ s.length := by
  have := Scan.run_length h
  simp [Scan.size] at this
  omega

end UserDirectory.Json
