/-!
# Fixed texts

Texts are put together as lists of characters, so that they can be taken apart again in the same
terms. `chars` gives the characters of a fixed part.
-/

namespace UserDirectory

/-- The characters of a fixed text. -/
def chars (s : String) : List Char := s.toList

@[simp] theorem ofList_chars (s : String) : String.ofList (chars s) = s := String.ofList_toList

end UserDirectory
