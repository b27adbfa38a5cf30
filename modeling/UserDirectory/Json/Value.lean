import UserDirectory.Json.Skip

/-!
# Values of a known kind

Readers for the kinds of values that records hold: texts, instants and 32-bit integers.

A value of another kind is named in the error. Arrays and objects are refused on sight; scalars are
read whole first, so that a malformed one is reported as malformed.
-/

namespace UserDirectory.Json

/-- What is wrong with a value that begins with `c` where `expected` is due. -/
def unexpected (expected : String) (c : Char) (s : List Char) : Error :=
  let wrong (found : Found) : Error := .data (.invalidType found expected)
  let word (letters : List Char) (found : Found) : Error :=
    match skipWord letters s with
    | .error e => e
    | .ok _ => wrong found
  let number (negative : Bool) (s : List Char) : Error :=
    match readNumber negative s with
    | .error e => e
    | .ok (n, _) => wrong (.number n)
  if c = '"' then
    match readString [] s with
    | .error e => e
    | .ok (text, _) => wrong (.string text)
  else if c = '-' then number true s
  else if c.isDigit then number false (c :: s)
  else if c = 'n' then word ['u', 'l', 'l'] .null
  else if c = 't' then word ['r', 'u', 'e'] (.boolean true)
  else if c = 'f' then word ['a', 'l', 's', 'e'] (.boolean false)
  else if c = '[' then wrong .sequence
  else if c = '{' then wrong .map
  else .malformed

/-- Reads a string literal, where `expected` says what it is for. -/
def readTextAs (expected : String) (s : List Char) : Except Error (List Char × List Char) :=
  match skipBlanks s with
  | [] => .error .eof
  | c :: s => if c = '"' then readString [] s else .error (unexpected expected c s)

/-- Reads a text. -/
def readText (s : List Char) : Except Error (String × List Char) :=
  match readTextAs "a string" s with
  | .error e => .error e
  | .ok (text, s) => .ok (String.ofList text, s)

/-- Reads an instant, which is written as a string. -/
def readInstant (s : List Char) : Except Error (Instant × List Char) :=
  match readTextAs "an RFC 3339 formatted date and time string" s with
  | .error e => .error e
  | .ok (text, s) =>
    match Instant.read text with
    | .error e => .error (.data (.time e))
    | .ok t => .ok (t, s)

/-- The number as a 32-bit integer. -/
def Number.toInt32 : Number → Except Fault Int32
  | .integer n =>
    if -2147483648 ≤ n ∧ n ≤ 2147483647 then .ok (Int32.ofInt n)
    else .error (.invalidValue n "i32")
  | n => .error (.invalidType (.number n) "i32")

/-- Reads a 32-bit integer. -/
def readInt32 (s : List Char) : Except Error (Int32 × List Char) :=
  match skipBlanks s with
  | [] => .error .eof
  | c :: s =>
    if c = '-' ∨ c.isDigit then
      match readNumber (c = '-') (if c = '-' then s else c :: s) with
      | .error e => .error e
      | .ok (n, s) =>
        match n.toInt32 with
        | .error fault => .error (.data fault)
        | .ok n => .ok (n, s)
    else .error (unexpected "i32" c s)

/-! ## Readers make the text shorter -/

theorem readTextAs_length {expected : String} {s r text : List Char}
    (h : readTextAs expected s = .ok (text, r)) : r.length < s.length := by
  unfold readTextAs at h
  split at h
  · simp at h
  · next hb =>
    have := skipBlanks_cons_length hb
    split at h
    · have := readString_length h
      omega
    · simp at h

theorem readText_length {s r : List Char} {text : String} (h : readText s = .ok (text, r)) :
    r.length < s.length := by
  unfold readText at h
  split at h
  · simp at h
  · next ht =>
    have := readTextAs_length ht
    simp only [Except.ok.injEq, Prod.mk.injEq] at h
    rw [← h.2]
    exact this

theorem readInstant_length {s r : List Char} {t : Instant} (h : readInstant s = .ok (t, r)) :
    r.length < s.length := by
  unfold readInstant at h
  split at h
  · simp at h
  · next ht =>
    have := readTextAs_length ht
    split at h
    · simp at h
    · simp only [Except.ok.injEq, Prod.mk.injEq] at h
      rw [← h.2]
      exact this

theorem readInt32_length {s r : List Char} {n : Int32} (h : readInt32 s = .ok (n, r)) :
    r.length < s.length := by
  unfold readInt32 at h
  split at h
  · simp at h
  · next c s' hb =>
    have := skipBlanks_cons_length hb
    split at h
    · split at h
      · simp at h
      · next hn =>
        have hlt := readNumber_length hn
        have : (if c = '-' then s' else c :: s').length ≤ s'.length + 1 := by
          split <;> simp
        split at h
        · simp at h
        · simp only [Except.ok.injEq, Prod.mk.injEq] at h
          rw [← h.2]
          omega
    · simp at h

end UserDirectory.Json
