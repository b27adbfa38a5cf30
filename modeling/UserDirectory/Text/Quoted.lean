import UserDirectory.Text.DefaultIgnorable
import UserDirectory.Text.GraphemeExtend
import UserDirectory.Text.Unprintable

/-!
# Quoted text

How a string is shown in log lines, in error texts and inside the display text of records: between
double quotes, on one line, with everything escaped that would end the quotes, break the line or be
invisible.

* `\0`, `\t`, `\r`, `\n`, `\"` and `\\` have short forms.
* Marks that extend their neighbour, characters without a printed form and characters that display
  nothing are written as `\u` and their lower-case hexadecimal code point in braces.
* All others, the single quote among them, stand for themselves.
-/

namespace UserDirectory.Quoted

/-- The two voiced sound marks of half width. They extend their neighbour like a mark, but are
letters with a shape and a width of their own. -/
def isSoundMark (c : Char) : Bool := c = Char.ofNat 0xFF9E || c = Char.ofNat 0xFF9F

/-- Whether a character has no readable form of its own. -/
def hidden (c : Char) : Bool :=
  (CharClass.graphemeExtend.mem c && !isSoundMark c) || CharClass.unprintable.mem c
    || CharClass.defaultIgnorable.mem c

/-- How one character is written between the quotes. -/
def escape (c : Char) : List Char :=
  if c = '\x00' then ['\\', '0']
  else if c = '\t' then ['\\', 't']
  else if c = '\r' then ['\\', 'r']
  else if c = '\n' then ['\\', 'n']
  else if c = '"' then ['\\', '"']
  else if c = '\\' then ['\\', '\\']
  else if hidden c then ['\\', 'u', '{'] ++ Nat.toDigits 16 c.toNat ++ ['}']
  else [c]

/-- The text between double quotes, escaped. -/
def quote (text : List Char) : List Char := '"' :: (text.flatMap escape ++ ['"'])

/-- The characters of a string between double quotes, escaped. -/
def ofString (s : String) : List Char := quote s.toList

end UserDirectory.Quoted
