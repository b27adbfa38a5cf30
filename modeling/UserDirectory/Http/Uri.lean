import UserDirectory.Text.Digits
import UserDirectory.Text.Utf8

/-!
# Request targets

The target of a request in the forms HTTP knows: a path with an optional query, an absolute URI, an
authority alone, or an asterisk. Only the path and the query are kept. A fragment is dropped
unread.

## Two readings of a path

The *raw path* is the path as it stands in the target. The *match path* is what routes are compared
with: its percent escapes are decoded, except those of the percent sign, the slash and the plus
sign, and the bytes are read as UTF-8, leniently.
-/

namespace UserDirectory

/-- A request target. -/
structure Uri where
  /-- The raw path; empty for an authority alone. -/
  path : String
  query : Option String
  deriving DecidableEq, Repr

namespace Uri

/-- Whether the code point lies between the two. -/
def between (low high : Nat) (c : Char) : Bool := decide (low ≤ c.toNat ∧ c.toNat ≤ high)

/-! ## Path and query -/

/-- Characters a path may hold as they are. -/
def isPathChar (c : Char) : Bool :=
  c = '!' || between 0x24 0x3B c || c = '=' || between 0x40 0x5F c || between 0x61 0x7A c
    || c = '|' || c = '~' || c = '"' || c = '{' || c = '}'

/-- Characters a query may hold as they are. -/
def isQueryChar (c : Char) : Bool :=
  c = '!' || between 0x24 0x3B c || c = '=' || between 0x3F 0x7E c

/-- Whether the character ends a path. -/
def endsPath (c : Char) : Bool := c = '?' || c = '#'

/-- Reads the query of a text that follows a path; the outer option tells whether it is valid. -/
def query? : List Char → Option (Option (List Char))
  | '?' :: s =>
    let query := s.takeWhile (· ≠ '#')
    if query.all isQueryChar then some (some query) else none
  | _ => some none

/-- Reads a path and a query. An empty path stands for the root. -/
def pathAndQuery? (s : List Char) : Option Uri :=
  let path := s.takeWhile fun c => !endsPath c
  if path.all isPathChar then
    (query? (s.dropWhile fun c => !endsPath c)).map fun query =>
      ⟨if path.isEmpty then "/" else String.ofList path, query.map String.ofList⟩
  else none

/-! ## Authority -/

/-- Characters an authority may hold besides colons, brackets, at signs and percent signs. -/
def isAuthorityChar (c : Char) : Bool :=
  c.isAlphanum
    || ['!', '$', '&', '\x27', '(', ')', '*', '+', ',', '-', '.', ';', '=', '_', '~'].contains c

/-- What has been seen of an authority. -/
structure Authority where
  /-- Colons since the last at sign or closing bracket. -/
  colons : Nat
  opened : Bool
  closed : Bool
  /-- Whether a percent sign has been seen since the last at sign or closing bracket. -/
  percent : Bool

/-- Takes one character of an authority. -/
def Authority.step (a : Authority) (c : Char) : Option Authority :=
  if c = ':' then if a.colons < 8 then some { a with colons := a.colons + 1 } else none
  else if c = '[' then
    if a.percent || a.opened then none else some { a with opened := true }
  else if c = ']' then
    if !a.opened || a.closed then none
    else some { a with closed := true, colons := 0, percent := false }
  else if c = '@' then some { a with colons := 0, percent := false }
  else if c = '%' then some { a with percent := true }
  else if isAuthorityChar c then some a
  else none

/-- Whether an authority may end here. -/
def Authority.complete (a : Authority) : Bool :=
  a.opened == a.closed && decide (a.colons ≤ 1) && !a.percent

/-- Whether the text is an authority: brackets match, a port follows at most one colon, user
information is followed by a host, and escapes stand in user information or brackets only. -/
def isAuthority (s : List Char) : Bool :=
  ((s.foldlM Authority.step ⟨0, false, false, false⟩).elim false Authority.complete)
    && decide (s.getLast? ≠ some '@')

/-- Whether the character ends an authority. -/
def endsAuthority (c : Char) : Bool := c = '/' || c = '?' || c = '#'

/-! ## Whole targets -/

/-- Characters of a scheme. -/
def isSchemeChar (c : Char) : Bool := c.isAlphanum || ['+', '-', '.', '~'].contains c

/-- Reads what follows the scheme of an absolute URI. -/
def hierarchy? (s : List Char) : Option Uri :=
  let authority := s.takeWhile fun c => !endsAuthority c
  if authority.isEmpty || !isAuthority authority then none
  else pathAndQuery? (s.dropWhile fun c => !endsAuthority c)

/-- Reads an absolute URI or an authority alone. -/
def absolute? (s : List Char) : Option Uri :=
  match s.dropWhile isSchemeChar with
  | ':' :: '/' :: '/' :: rest =>
    if 64 < (s.takeWhile isSchemeChar).length then none else hierarchy? rest
  | _ => if isAuthority s then some ⟨"", none⟩ else none

/-- The longest target, in bytes. -/
def greatestSize : Nat := 65534

/-- Reads a request target. -/
def parse? (target : String) : Option Uri :=
  if greatestSize < Utf8.size target.toList then none
  else
    match target.toList with
    | [] => none
    | ['*'] => some ⟨"*", none⟩
    | '/' :: s => pathAndQuery? ('/' :: s)
    | s => absolute? s

/-! ## Match path -/

/-- Escapes of these bytes are kept as they are: the percent sign, the slash and the plus sign. -/
def isKept (b : Nat) : Bool := b = 0x25 || b = 0x2F || b = 0x2B

/-- The byte that an escape with these digits stands for, unless it is to be kept. -/
def escapedByte? (a b : Char) : Option UInt8 :=
  match Digits.hexNumber? [a, b] with
  | some n => if isKept n then none else some (UInt8.ofNat n)
  | none => none

/-- The bytes of a path, its escapes decoded. -/
def unescape : List Char → List UInt8
  | '%' :: a :: b :: rest =>
    match escapedByte? a b with
    | some byte => byte :: unescape rest
    | none => 0x25 :: unescape (a :: b :: rest)
  | c :: rest => String.utf8EncodeChar c ++ unescape rest
  | [] => []

/-- The path that routes are compared with. -/
def matchPath (u : Uri) : List Char := Utf8.decodeLossy (unescape u.path.toList)

end Uri

end UserDirectory
