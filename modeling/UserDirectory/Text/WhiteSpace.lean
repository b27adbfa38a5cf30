import UserDirectory.Text.CharClass

/-!
# White space

The 25 characters with the Unicode property White_Space. Times may be padded with them, and so
may the lines of a settings file.
-/

namespace UserDirectory

/-- Characters with the property White_Space. -/
def CharClass.whiteSpace : CharClass where
  ranges := [
    (0x9, 0xD), (0x20, 0x20), (0x85, 0x85), (0xA0, 0xA0), (0x1680, 0x1680), (0x2000, 0x200A),
    (0x2028, 0x2029), (0x202F, 0x202F), (0x205F, 0x205F), (0x3000, 0x3000)]

/-- Whether the character is white space of any kind. -/
def isWhiteSpace (c : Char) : Bool := CharClass.whiteSpace.mem c

end UserDirectory
