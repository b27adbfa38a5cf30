/-!
# Classes of characters

A class of characters is given by the closed ranges of code points it covers, in ascending order.
The modules beside this one hold the classes the service needs, each named for its Unicode
property: white space, letters and digits, characters that extend the one before them, characters
that display nothing, and characters that cannot be printed.

## Looking a character up

The ranges ascend, so the search stops at the first range that begins above the character.
Latin text, whose ranges stand first, is settled within a few steps.
-/

namespace UserDirectory

/-- A class of characters, as closed ranges of code points in ascending order. -/
structure CharClass where
  ranges : List (Nat × Nat)

namespace CharClass

/-- Whether `n` lies in one of the ascending ranges. -/
def covers : List (Nat × Nat) → Nat → Bool
  | [], _ => false
  | (low, high) :: rest, n => if n < low then false else decide (n ≤ high) || covers rest n

/-- Whether the character belongs to the class. -/
def mem (k : CharClass) (c : Char) : Bool := covers k.ranges c.toNat

end CharClass

end UserDirectory
