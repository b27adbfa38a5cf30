import UserDirectory.Text.Utf8
import UserDirectory.Text.WhiteSpace

/-!
# Lines of a settings file

A settings file is a sequence of logical lines. A logical line is a physical one, unless a quote, an
escape or a single blank is open at its end; then the next physical line belongs to it too.

## How it works

A small machine (`LineState`) runs over each physical line and carries its state to the next. A `#`
after a blank begins a comment, and the logical line ends before it. A logical line whose first
visible character is `#` is empty.

Lines are read until one is not UTF-8 or the file ends inside a logical line; nothing from there on
counts.
-/

namespace UserDirectory.SettingsFile

/-- What is open at a place in a line. -/
inductive LineState where
  /-- Nothing. -/
  | complete
  /-- A blank has just been read. -/
  | blank
  /-- An escape. -/
  | escape
  /-- Double quotes. -/
  | weak
  /-- An escape within double quotes. -/
  | weakEscape
  /-- Single quotes. -/
  | strong
  /-- An escape within single quotes. -/
  | strongEscape
  deriving DecidableEq, Repr

/-- The state after a character that opens something, or else `other`. -/
def LineState.open (other : LineState) (c : Char) : LineState :=
  if c = '\\' then .escape
  else if c = '"' then .weak
  else if c = '\x27' then .strong
  else other

/-- The state after one more character. -/
def LineState.step (state : LineState) (c : Char) : LineState :=
  match state with
  | .complete =>
    if isWhiteSpace c && c ≠ '\n' && c ≠ '\r' then .blank else LineState.open .complete c
  | .blank => LineState.open .complete c
  | .escape => .complete
  | .weak => if c = '\\' then .weakEscape else if c = '"' then .complete else .weak
  | .weakEscape => .weak
  | .strong => if c = '\\' then .strongEscape else if c = '\x27' then .complete else .strong
  | .strongEscape => .strong

/-- Where a physical line leads. -/
inductive LineEnd where
  /-- To a comment, after the given characters. -/
  | comment (kept : List Char)
  /-- To its end, in a state. -/
  | reached (state : LineState)

/-- Runs over a physical line. -/
def LineState.run : LineState → List Char → LineEnd
  | state, [] => .reached state
  | state, c :: s =>
    if state = .blank ∧ c = '#' then .comment []
    else
      match (state.step c).run s with
      | .comment kept => .comment (c :: kept)
      | .reached state => .reached state

/-- The physical lines of a file, with their line ends. -/
def physicalLines : List UInt8 → List (List UInt8)
  | [] => []
  | b :: bytes =>
    if b = 0x0A then [b] :: physicalLines bytes
    else
      match physicalLines bytes with
      | [] => [[b]]
      | line :: lines => (b :: line) :: lines

/-- The text without a line end. -/
def trimLineEnd (s : List Char) : List Char :=
  match s.reverse with
  | '\n' :: '\r' :: r => r.reverse
  | '\n' :: r => r.reverse
  | _ => s

/-- Whether the first visible character begins a comment. -/
def isComment (s : List Char) : Bool := (s.dropWhile isWhiteSpace).head? = some '#'

/-- The logical lines made of the given physical ones, after a part of a logical line has been
read and left the machine in a state. -/
def logicalLinesFrom (part : List Char) (state : LineState) :
    List (List UInt8) → List (List Char)
  | [] => []
  | bytes :: lines =>
    match Utf8.decode? bytes with
    | none => []
    | some line =>
      if isComment (part ++ line) then [] :: logicalLinesFrom [] .complete lines
      else
        match state.run line with
        | .comment kept => (part ++ kept) :: logicalLinesFrom [] .complete lines
        | .reached .complete =>
          trimLineEnd (part ++ line) :: logicalLinesFrom [] .complete lines
        | .reached state => logicalLinesFrom (part ++ line) state lines

/-- The bytes without a byte order mark. -/
def dropMark : List UInt8 → List UInt8
  | 0xEF :: 0xBB :: 0xBF :: bytes => bytes
  | bytes => bytes

/-- The logical lines of a file, as far as they can be read. -/
def logicalLines (bytes : List UInt8) : List (List Char) :=
  logicalLinesFrom [] .complete (physicalLines (dropMark bytes))

end UserDirectory.SettingsFile
