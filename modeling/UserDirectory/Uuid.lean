import UserDirectory.Text.Digits

/-!
# Time-ordered identifiers

A version 7 UUID: 48 bits of milliseconds since 1970, the version, 12 random bits, the variant and
62 random bits, written as 32 lower-case hexadecimal digits in five groups. The clock and the
random bits are given from outside.
-/

namespace UserDirectory.Uuid

/-- The 128 bits of a version 7 identifier. -/
def bits (millis random : Nat) : Nat :=
  let field (n width shift : Nat) := n % Nat.pow 2 width * Nat.pow 2 shift
  field millis 48 80 + field 7 4 76 + field (random / Nat.pow 2 62) 12 64 + field 2 2 62
    + field random 62 0

/-- Splits into groups of the given sizes. -/
def groups : List Nat → List Char → List (List Char)
  | [], _ => []
  | n :: sizes, s => s.take n :: groups sizes (s.drop n)

/-- The identifier for a time in milliseconds and 74 random bits. -/
def make (millis random : Nat) : String :=
  let digits := Digits.hexPadded 32 (bits millis random)
  String.ofList (['-'].intercalate (groups [8, 4, 4, 4, 12] digits))

/-- Whether all characters are lower-case hexadecimal digits. -/
def isLowerHex (s : List Char) : Bool :=
  s.all fun c => c.isDigit || decide ('a' ≤ c ∧ c ≤ 'f')

/-- The time of a version 7 identifier in milliseconds; none for any other text. -/
def millis? (id : String) : Option Nat :=
  let s := id.toList
  let digits := s.filter (· ≠ '-')
  let wellFormed := decide (['-'].intercalate (groups [8, 4, 4, 4, 12] digits) = s)
    && decide (digits.length = 32) && isLowerHex digits
  let versioned := decide (digits[12]? = some '7')
    && (digits[16]?.elim false fun c => ['8', '9', 'a', 'b'].contains c)
  if wellFormed && versioned then Digits.hexNumber? (digits.take 12) else none

end UserDirectory.Uuid
