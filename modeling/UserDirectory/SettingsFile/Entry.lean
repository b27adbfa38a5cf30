import UserDirectory.SettingsFile.Line
import UserDirectory.Text.Alphanumeric

/-!
# Entries of a settings file

A logical line holds nothing, or an entry `KEY=value`, optionally after the word `export`.

## Values

A value is read character by character (`Mode`). Single quotes keep everything literal; double
quotes keep blanks; a backslash escapes `\`, `'`, `"`, `$`, a blank, and gives a line feed before
`n`. `$NAME` and the form with the name in braces stand for the value of a variable, outside of
single quotes. Unquoted, a blank ends the value, and only a comment may follow.

The character that ends a `$NAME` is taken literally, even a quote, unless it is another `$`.
-/

namespace UserDirectory.SettingsFile

/-- Where in a value the reader stands. `double` tells whether double quotes are open. -/
inductive Mode where
  | plain
  | weak
  | strong
  /-- After a blank that ended the value. -/
  | ended
  /-- In a comment after the value. -/
  | comment
  /-- After a backslash. -/
  | escaped (double : Bool)
  /-- In a name after `$`; its characters so far. -/
  | name (double : Bool) (seen : List Char)
  /-- In a name in braces; its characters so far. -/
  | braced (double : Bool) (seen : List Char)
  deriving DecidableEq, Repr

/-- The mode inside or outside of double quotes. -/
def Mode.quoted (double : Bool) : Mode := if double then .weak else .plain

/-- The character that an escape stands for. -/
def escaped? (c : Char) : Option Char :=
  if c = '\\' ∨ c = '\x27' ∨ c = '"' ∨ c = '$' ∨ c = ' ' then some c
  else if c = 'n' then some '\n'
  else none

/-- Takes one character: what it adds to the value, and the mode after it. The values of variables
come from `lookup`. -/
def Mode.step (lookup : List Char → List Char) (mode : Mode) (c : Char) :
    Option (List Char × Mode) :=
  match mode with
  | .ended =>
    if c = ' ' ∨ c = '\t' then some ([], .ended)
    else if c = '#' then some ([], .comment)
    else none
  | .comment => some ([], .comment)
  | .escaped double => (escaped? c).map fun d => ([d], .quoted double)
  | .strong => if c = '\x27' then some ([], .plain) else some ([c], .strong)
  | .name double seen =>
    if isAlphanumeric c then some ([], .name double (seen ++ [c]))
    else if c = '{' ∧ seen = [] then some ([], .braced double [])
    else if c = '$' then some (lookup seen, .name double [])
    else some (lookup seen ++ [c], .quoted double)
  | .braced double seen =>
    if c = '}' then some (lookup seen, .quoted double)
    else some ([], .braced double (seen ++ [c]))
  | .weak =>
    if c = '$' then some ([], .name true [])
    else if c = '"' then some ([], .plain)
    else if c = '\\' then some ([], .escaped true)
    else some ([c], .weak)
  | .plain =>
    if c = '$' then some ([], .name false [])
    else if c = '\x27' then some ([], .strong)
    else if c = '"' then some ([], .weak)
    else if c = '\\' then some ([], .escaped false)
    else if c = ' ' ∨ c = '\t' then some ([], .ended)
    else some ([c], .plain)

/-- What the end of the line adds to the value; quotes and braces have to be closed. -/
def Mode.finish? (lookup : List Char → List Char) : Mode → Option (List Char)
  | .plain | .ended | .comment | .escaped false => some []
  | .name false seen => some (lookup seen)
  | _ => none

/-- Reads a value from a mode on. -/
def Mode.value? (lookup : List Char → List Char) : Mode → List Char → Option (List Char)
  | mode, [] => mode.finish? lookup
  | mode, c :: s =>
    match mode.step lookup c with
    | none => none
    | some (text, mode) => (mode.value? lookup s).map (text ++ ·)

/-! ## Lines -/

/-- Whether the character may begin a key. -/
def beginsKey (c : Char) : Bool := c.isAlpha || c = '_'

/-- Whether the character may stand in a key. -/
def isKeyChar (c : Char) : Bool := c.isAlphanum || c = '_' || c = '.'

/-- Reads a key and the white space after it. -/
def key? : List Char → Option (List Char × List Char)
  | [] => none
  | c :: s =>
    if beginsKey c then
      some ((c :: s).takeWhile isKeyChar, ((c :: s).dropWhile isKeyChar).dropWhile isWhiteSpace)
    else none

/-- Reads the key of an entry and the equals sign. The word `export` may stand before the key. -/
def keyAndEquals? (s : List Char) : Option (List Char × List Char) :=
  match key? s with
  | none => none
  | some (key, '=' :: s) => some (key, s)
  | some (key, s) =>
    if key = ['e', 'x', 'p', 'o', 'r', 't'] then
      match key? s with
      | some (key, '=' :: s) => some (key, s)
      | _ => none
    else none

/-- What a logical line holds. -/
inductive Entry where
  | nothing
  | entry (key : String) (value : List Char)
  | malformed
  deriving DecidableEq, Repr

/-- Reads a logical line. -/
def Entry.read (lookup : List Char → List Char) (line : List Char) : Entry :=
  let trimmed := (line.reverse.dropWhile isWhiteSpace).reverse.dropWhile isWhiteSpace
  if trimmed = [] ∨ trimmed.head? = some '#' then .nothing
  else
    match keyAndEquals? trimmed with
    | none => .malformed
    | some (key, s) =>
      let s := s.dropWhile isWhiteSpace
      if s.head? = some '#' then .entry (String.ofList key) []
      else
        match Mode.plain.value? lookup s with
        | some value => .entry (String.ofList key) value
        | none => .malformed

end UserDirectory.SettingsFile
