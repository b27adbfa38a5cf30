import UserDirectory.Text.WhiteSpace
import UserDirectory.Time.Instant

/-!
# Reading instants

A date, a time of day and an offset from UTC, in a relaxed form of the usual notation: numbers need
not be padded, white space may stand between the parts, the year may be signed and of any length,
and the fraction may have any number of digits, of which nine count.

## How it works

Reading takes two steps. `LocalTime.read` takes the text apart from left to right and refuses a
number as soon as it is out of its bounds. `LocalTime.resolve` asks whether the date exists and
moves the local time to UTC.
-/

namespace UserDirectory

/-- Why a text is not an instant. -/
inductive TimeError where
  /-- A character stands where it cannot. -/
  | invalid
  /-- The text ends too early. -/
  | tooShort
  /-- Something follows the instant. -/
  | tooLong
  /-- A number exceeds its bounds, or there is no such date. -/
  | outOfRange
  /-- In UTC the instant lies outside of the range of years. -/
  | impossible
  deriving DecidableEq, Repr

/-- The wording of the cause. -/
def TimeError.message : TimeError → String
  | .invalid => "input contains invalid characters"
  | .tooShort => "premature end of input"
  | .tooLong => "trailing input"
  | .outOfRange => "input is out of range"
  | .impossible => "no possible date and time matching input"

/-- A date and time of day as read, with the offset from UTC in minutes. -/
structure LocalTime where
  date : Date
  hour : Nat
  minute : Nat
  /-- From 0 to 60; 60 names a leap second. -/
  second : Nat
  nanos : Nat
  /-- Minutes by which local time is ahead of UTC. -/
  offset : Int
  deriving DecidableEq, Repr

namespace LocalTime

/-! ## Parts -/

/-- The text without the white space in front. -/
def skip (s : List Char) : List Char := s.dropWhile isWhiteSpace

/-- Reads a number of at most `most` digits. -/
def readNumber (most : Nat) : List Char → Except TimeError (Nat × List Char)
  | [] => .error .tooShort
  | s =>
    let digits := (s.take most).takeWhile Char.isDigit
    if digits.isEmpty then .error .invalid
    else .ok (Digits.value digits, s.drop digits.length)

/-- Reads the given character. -/
def readLiteral (c : Char) : List Char → Except TimeError (List Char)
  | [] => .error .tooShort
  | d :: s => if d = c then .ok s else .error .invalid

/-- Reads white space and a number of at most two digits from `low` to `high`. -/
def readField (low high : Nat) (s : List Char) : Except TimeError (Nat × List Char) := do
  let (n, s) ← readNumber 2 (skip s)
  if low ≤ n ∧ n ≤ high then .ok (n, s) else .error .outOfRange

/-- Reads the given character with white space before it, then a number as `readField` does. -/
def readFieldAfter (c : Char) (low high : Nat) (s : List Char) :
    Except TimeError (Nat × List Char) := do
  let s ← readLiteral c (skip s)
  readField low high s

/-- Reads a year: a sign and any number of digits, or at most four digits. It fits 32 bits. -/
def readYear (s : List Char) : Except TimeError (Int × List Char) := do
  let (n, s) ←
    match skip s with
    | '-' :: r => (readNumber r.length r).map fun (n, r) => (-(n : Int), r)
    | '+' :: r => (readNumber r.length r).map fun (n, r) => ((n : Int), r)
    | r => (readNumber 4 r).map fun (n, r) => ((n : Int), r)
  if -2147483648 ≤ n ∧ n ≤ 2147483647 then .ok (n, s) else .error .outOfRange

/-- Reads what divides the date from the time of day. -/
def readSeparator : List Char → Except TimeError (List Char)
  | [] => .error .tooShort
  | c :: s => if c = 'T' ∨ c = 't' ∨ c = ' ' then .ok s else .error .invalid

/-- Reads the fraction of a second, if there is one, in nanoseconds. -/
def readFraction : List Char → Except TimeError (Nat × List Char)
  | '.' :: s => do
    let (n, r) ← readNumber 9 s
    .ok (n * Nat.pow 10 (9 - (s.length - r.length)), r.dropWhile Char.isDigit)
  | s => .ok (0, s)

/-- Reads two digits. One more byte at the end is too short a text. -/
def readTwoDigits : List Char → Except TimeError (Nat × List Char)
  | [] => .error .tooShort
  | [c] => .error (if c.toNat < 0x80 then .tooShort else .invalid)
  | c :: d :: s =>
    if c.isDigit ∧ d.isDigit then .ok (Digits.value [c, d], s) else .error .invalid

/-- Reads hours and minutes after the sign of an offset, as minutes. Colons and white space may
stand between the two. -/
def readOffsetMinutes (s : List Char) : Except TimeError (Nat × List Char) := do
  let (hours, s) ← readTwoDigits s
  let (minutes, s) ← readTwoDigits (s.dropWhile fun c => c = ':' || isWhiteSpace c)
  if minutes < 60 then .ok (60 * hours + minutes, s) else .error .outOfRange

/-- Reads the offset from UTC in minutes: `UTC` or `Z` in any case, or a sign and hours and
minutes. The sign may be U+2212. -/
def readOffset : List Char → Except TimeError (Int × List Char)
  | [] => .error .tooShort
  | c :: s =>
    if (((c :: s).take 3).map Char.toUpper) = ['U', 'T', 'C'] then .ok (0, s.drop 2)
    else if c = 'Z' ∨ c = 'z' then .ok (0, s)
    else if c = '+' then (readOffsetMinutes s).map fun (n, r) => ((n : Int), r)
    else if c = '-' ∨ c = Char.ofNat 0x2212 then
      (readOffsetMinutes s).map fun (n, r) => (-(n : Int), r)
    else .error .invalid

/-! ## Whole texts -/

/-- Takes the text of an instant apart. -/
def read (s : List Char) : Except TimeError LocalTime := do
  let (year, s) ← readYear s
  let (month, s) ← readFieldAfter '-' 1 12 s
  let (day, s) ← readFieldAfter '-' 1 31 s
  let s ← readSeparator s
  let (hour, s) ← readField 0 23 s
  let (minute, s) ← readFieldAfter ':' 0 59 s
  let (second, s) ← readFieldAfter ':' 0 60 s
  let (nanos, s) ← readFraction s
  let (offset, s) ← readOffset (skip s)
  if (skip s).isEmpty then .ok ⟨⟨year, month, day⟩, hour, minute, second, nanos, offset⟩
  else .error .tooLong

/-- Seconds from the epoch to the local time, moved to UTC. A leap second counts as the second
before it. -/
def utcSeconds (t : LocalTime) : Int :=
  (t.date.toDays * 1440 + t.hour * 60 + t.minute - t.offset) * 60 + (min t.second 59 : Nat)

/-- A leap second follows the last second of a minute, whatever the offset. -/
theorem utcSeconds_leap (t : LocalTime) (h : 60 ≤ t.second) : t.utcSeconds % 60 = 59 := by
  have : min t.second 59 = 59 := by omega
  rw [utcSeconds, this]
  omega

/-- The instant that the local time denotes. -/
def resolve (t : LocalTime) : Except TimeError Instant :=
  if ¬ t.date.Exists then .error .outOfRange
  else if t.date.year < -262143 ∨ 262142 < t.date.year then .error .outOfRange
  else if 1440 ≤ t.offset.natAbs then .error .outOfRange
  else if nanos_lt : t.nanos < 1000000000 then
    if range : -8334601228800 ≤ t.utcSeconds ∧ t.utcSeconds ≤ 8210266876799 then
      .ok {
        seconds := t.utcSeconds
        nanos := t.nanos
        leap := decide (60 ≤ t.second)
        nanos_lt := nanos_lt
        leap_last := fun h => t.utcSeconds_leap (of_decide_eq_true h)
        earliest_le := range.1
        le_latest := range.2 }
    else .error .impossible
  else .error .outOfRange

end LocalTime

/-- Reads an instant. -/
def Instant.read (s : List Char) : Except TimeError Instant := do
  let t ← LocalTime.read s
  t.resolve

end UserDirectory
