import UserDirectory.Text.Digits
import UserDirectory.Time.Date

/-!
# Instants

A point in time: whole seconds since 1970-01-01T00:00:00Z, nanoseconds, and whether it lies in the
leap second that follows that second. The range is every second of the years -262143 to 262142.

## Text

`YYYY-MM-DDThh:mm:ss`, a fraction of three, six or nine digits, the fewest that are exact, and `Z`.
Years outside 0 to 9999 carry a sign. A leap second is written as second 60.
-/

namespace UserDirectory

/-- A point in time, to the nanosecond. -/
structure Instant where
  /-- Seconds since the epoch, not counting leap seconds. -/
  seconds : Int
  /-- Nanoseconds within the second. -/
  nanos : Nat
  /-- Whether the instant lies in a leap second after `seconds`. -/
  leap : Bool
  /-- A second has 10^9 nanoseconds. -/
  nanos_lt : nanos < 1000000000
  /-- Leap seconds follow the last second of a minute. -/
  leap_last : leap = true → seconds % 60 = 59
  /-- The range begins with the year -262143. -/
  earliest_le : -8334601228800 ≤ seconds
  /-- The range ends with the year 262142. -/
  le_latest : seconds ≤ 8210266876799
  deriving DecidableEq

namespace Instant

/-- The beginning of 1970, in UTC. -/
def epoch : Instant where
  seconds := 0
  nanos := 0
  leap := false
  nanos_lt := by decide
  leap_last := by decide
  earliest_le := by decide
  le_latest := by decide

instance : Inhabited Instant := ⟨epoch⟩

/-- A year as four digits, or as a sign and at least four digits. -/
def yearText (year : Int) : List Char :=
  if 0 ≤ year ∧ year ≤ 9999 then Digits.padded 4 year.toNat
  else (if year < 0 then '-' else '+') :: Digits.padded 4 year.natAbs

/-- Year, month and day with hyphens between them. -/
def dateText (d : Date) : List Char :=
  yearText d.year ++ '-' :: Digits.padded 2 d.month ++ '-' :: Digits.padded 2 d.day

/-- The fraction of a second: nothing, or a point and the fewest of 3, 6 or 9 digits. -/
def fractionText (nanos : Nat) : List Char :=
  if nanos = 0 then []
  else if nanos % 1000000 = 0 then '.' :: Digits.padded 3 (nanos / 1000000)
  else if nanos % 1000 = 0 then '.' :: Digits.padded 6 (nanos / 1000)
  else '.' :: Digits.padded 9 nanos

/-- The instant in UTC. -/
def text (t : Instant) : List Char :=
  let date := Date.ofDays (t.seconds / 86400)
  let second := (t.seconds % 86400).toNat
  dateText date ++ 'T' :: Digits.padded 2 (second / 3600)
    ++ ':' :: Digits.padded 2 (second / 60 % 60)
    ++ ':' :: Digits.padded 2 (second % 60 + (if t.leap then 1 else 0))
    ++ fractionText t.nanos ++ ['Z']

end Instant

end UserDirectory
