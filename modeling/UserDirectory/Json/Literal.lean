import UserDirectory.Json.Error
import UserDirectory.Text.Utf8

/-!
# String literals

Strings between double quotes, as JSON writes them, and the blanks between tokens.

## Writing

The quote, the backslash and the controls below U+0020 are escaped, the controls by their short
form if they have one. Everything else stands for itself.

## Reading

`readChar` reads one character, literal or escaped, or the closing quote. A code point above U+FFFF
is escaped as two surrogates, which have to come as a pair. Fewer than four bytes after `\u` are a
text that ended, four others than hexadecimal digits are a malformed one. A literal that is only
skipped may hold lone surrogates (`skipChar`).

## Termination

Each character read or skipped makes the text shorter (`readChar_length`, `skipChar_length`).
-/

namespace UserDirectory.Json

/-! ## Blanks -/

/-- Blanks between tokens are spaces, tabs and line ends. -/
def isBlank (c : Char) : Bool := c = ' ' || c = '\t' || c = '\n' || c = '\r'

/-- The text without the blanks in front. -/
def skipBlanks (s : List Char) : List Char := s.dropWhile isBlank

theorem skipBlanks_length (s : List Char) : (skipBlanks s).length ≤ s.length :=
  (List.dropWhile_sublist _).length_le

/-! ## Writing -/

/-- How one character is written inside a literal. -/
def escape (c : Char) : List Char :=
  if c = '"' then ['\\', '"']
  else if c = '\\' then ['\\', '\\']
  else if c = '\x08' then ['\\', 'b']
  else if c = '\x0c' then ['\\', 'f']
  else if c = '\n' then ['\\', 'n']
  else if c = '\r' then ['\\', 'r']
  else if c = '\t' then ['\\', 't']
  else if c.toNat < 0x20 then ['\\', 'u'] ++ Digits.hexPadded 4 c.toNat
  else [c]

/-- The text as a string literal. -/
def literal (text : List Char) : List Char := '"' :: (text.flatMap escape ++ ['"'])

/-! ## Reading -/

/-- Reads the four hexadecimal digits of an escape. -/
def hexFour : List Char → Except Error (Nat × List Char)
  | a :: b :: c :: d :: s =>
    match Digits.hexNumber? [a, b, c, d] with
    | some n => .ok (n, s)
    | none => .error .malformed
  | s => if Utf8.size s < 4 then .error .eof else .error .malformed

/-- The character that a letter after a backslash names. -/
def shortEscape? (c : Char) : Option Char :=
  if c = '"' ∨ c = '\\' ∨ c = '/' then some c
  else if c = 'b' then some '\x08'
  else if c = 'f' then some '\x0c'
  else if c = 'n' then some '\n'
  else if c = 'r' then some '\r'
  else if c = 't' then some '\t'
  else none

/-- Reads the second half of a surrogate pair whose first half is `high`. -/
def lowSurrogate (high : Nat) : List Char → Except Error (Char × List Char)
  | '\\' :: 'u' :: s =>
    match hexFour s with
    | .error e => .error e
    | .ok (low, s) =>
      if 0xDC00 ≤ low ∧ low ≤ 0xDFFF then
        .ok (Char.ofNat (0x10000 + (high - 0xD800) * 0x400 + (low - 0xDC00)), s)
      else .error .malformed
  | [] | ['\\'] => .error .eof
  | _ => .error .malformed

/-- Reads an escape after its backslash. -/
def readEscape : List Char → Except Error (Char × List Char)
  | [] => .error .eof
  | 'u' :: s =>
    match hexFour s with
    | .error e => .error e
    | .ok (n, s) =>
      if 0xDC00 ≤ n ∧ n ≤ 0xDFFF then .error .malformed
      else if 0xD800 ≤ n ∧ n ≤ 0xDBFF then lowSurrogate n s
      else .ok (Char.ofNat n, s)
  | c :: s =>
    match shortEscape? c with
    | some d => .ok (d, s)
    | none => .error .malformed

/-- Reads one character of a literal, or nothing at the closing quote. -/
def readChar : List Char → Except Error (Option Char × List Char)
  | [] => .error .eof
  | c :: s =>
    if c = '"' then .ok (none, s)
    else if c = '\\' then
      match readEscape s with
      | .error e => .error e
      | .ok (d, s) => .ok (some d, s)
    else if c.toNat < 0x20 then .error .malformed
    else .ok (some c, s)

/-- Passes over one character of a literal, and tells whether it was not the closing quote. -/
def skipChar : List Char → Except Error (Bool × List Char)
  | [] => .error .eof
  | c :: s =>
    if c = '"' then .ok (false, s)
    else if c = '\\' then
      match s with
      | [] => .error .eof
      | 'u' :: s =>
        match hexFour s with
        | .error e => .error e
        | .ok (_, s) => .ok (true, s)
      | d :: s => if (shortEscape? d).isSome then .ok (true, s) else .error .malformed
    else if c.toNat < 0x20 then .error .malformed
    else .ok (true, s)

/-! ## Readers make the text shorter -/

theorem hexFour_length {s r : List Char} {n : Nat} (h : hexFour s = .ok (n, r)) :
    r.length < s.length := by
  unfold hexFour at h
  split at h
  · split at h
    · simp only [Except.ok.injEq, Prod.mk.injEq] at h
      simp only [← h.2, List.length_cons]
      omega
    · simp at h
  · split at h <;> simp at h

theorem lowSurrogate_length {high : Nat} {s r : List Char} {c : Char}
    (h : lowSurrogate high s = .ok (c, r)) : r.length < s.length := by
  unfold lowSurrogate at h
  split at h
  · split at h
    · simp at h
    · next hx =>
      have := hexFour_length hx
      split at h
      · simp only [Except.ok.injEq, Prod.mk.injEq] at h
        simp only [← h.2, List.length_cons]
        omega
      · simp at h
  all_goals simp at h

theorem readEscape_length {s r : List Char} {c : Char} (h : readEscape s = .ok (c, r)) :
    r.length < s.length := by
  unfold readEscape at h
  split at h
  · simp at h
  · split at h
    · simp at h
    · next hx =>
      have := hexFour_length hx
      split at h
      · simp at h
      · split at h
        · have := lowSurrogate_length h
          simp only [List.length_cons]
          omega
        · simp only [Except.ok.injEq, Prod.mk.injEq] at h
          simp only [← h.2, List.length_cons]
          omega
  · split at h
    · simp only [Except.ok.injEq, Prod.mk.injEq] at h
      simp [← h.2]
    · simp at h

/-- A character read makes the text shorter. -/
theorem readChar_length {s r : List Char} {c : Option Char} (h : readChar s = .ok (c, r)) :
    r.length < s.length := by
  unfold readChar at h
  split at h
  · simp at h
  · split at h
    · simp only [Except.ok.injEq, Prod.mk.injEq] at h
      simp [← h.2]
    · split at h
      · split at h
        · simp at h
        · next hx =>
          have := readEscape_length hx
          simp only [Except.ok.injEq, Prod.mk.injEq] at h
          simp only [← h.2, List.length_cons]
          omega
      · split at h
        · simp at h
        · simp only [Except.ok.injEq, Prod.mk.injEq] at h
          simp [← h.2]

/-- A character skipped makes the text shorter. -/
theorem skipChar_length {s r : List Char} {b : Bool} (h : skipChar s = .ok (b, r)) :
    r.length < s.length := by
  unfold skipChar at h
  split at h
  · simp at h
  · split at h
    · simp only [Except.ok.injEq, Prod.mk.injEq] at h
      simp [← h.2]
    · split at h
      · split at h
        · simp at h
        · split at h
          · simp at h
          · next hx =>
            have := hexFour_length hx
            simp only [Except.ok.injEq, Prod.mk.injEq] at h
            simp only [← h.2, List.length_cons]
            omega
        · split at h
          · simp only [Except.ok.injEq, Prod.mk.injEq] at h
            simp only [← h.2, List.length_cons]
            omega
          · simp at h
      · split at h
        · simp at h
        · simp only [Except.ok.injEq, Prod.mk.injEq] at h
          simp [← h.2]

/-! ## Whole literals -/

/-- Reads the rest of a literal after its opening quote. The characters read so far are in `seen`,
the last one first. -/
def readString (seen : List Char) (s : List Char) : Except Error (List Char × List Char) :=
  match _h : readChar s with
  | .error e => .error e
  | .ok (none, r) => .ok (seen.reverse, r)
  | .ok (some c, r) => readString (c :: seen) r
termination_by s.length
decreasing_by exact readChar_length _h

/-- Passes over the rest of a literal after its opening quote. -/
def skipString (s : List Char) : Except Error (List Char) :=
  match _h : skipChar s with
  | .error e => .error e
  | .ok (false, r) => .ok r
  | .ok (true, r) => skipString r
termination_by s.length
decreasing_by exact skipChar_length _h

theorem readString_length {seen s r text : List Char} (h : readString seen s = .ok (text, r)) :
    r.length < s.length := by
  induction hn : s.length using Nat.strongRecOn generalizing seen s with
  | _ n ih =>
    rw [readString] at h
    split at h
    · simp at h
    · next hc =>
      have := readChar_length hc
      simp only [Except.ok.injEq, Prod.mk.injEq] at h
      rw [← h.2]
      omega
    · next hc =>
      have := readChar_length hc
      have := ih _ (by omega) h rfl
      omega

theorem skipString_length {s r : List Char} (h : skipString s = .ok r) : r.length < s.length := by
  induction hn : s.length using Nat.strongRecOn generalizing s with
  | _ n ih =>
    rw [skipString] at h
    split at h
    · simp at h
    · next hc =>
      have := skipChar_length hc
      simp only [Except.ok.injEq] at h
      rw [← h]
      omega
    · next hc =>
      have := skipChar_length hc
      have := ih _ (by omega) h rfl
      omega

end UserDirectory.Json
