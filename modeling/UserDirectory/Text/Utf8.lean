/-!
# UTF-8

Reading byte strings as text, strictly and leniently, and writing text as bytes.

## How it works

A byte string splits, from left to right and without a gap, into pieces. A piece is either the
encoding of one scalar value or a *maximal invalid subpart*: the longest run of one to three bytes
that begins an encoding which the next byte does not continue. Strict reading accepts a byte string
all of whose pieces are scalar values; lenient reading shows each invalid piece as U+FFFD.

Which bytes may follow a lead byte is a table (`Lead.of?`). Only the second byte of an encoding has
bounds of its own: they keep out overlong forms, surrogates and values above U+10FFFF.

## Termination

`pieces` recurs on what `next` leaves, which is no longer than what followed the first byte.
-/

namespace UserDirectory.Utf8

/-- What a lead byte announces: the bits it carries, how many bytes must follow, and the bounds of
the first of those. -/
structure Lead where
  payload : Nat
  following : Nat
  low : UInt8
  high : UInt8

/-- The lead bytes of encodings that are longer than one byte. -/
def Lead.of? (b : UInt8) : Option Lead :=
  if b < 0xC2 then none
  else if b ≤ 0xDF then some ⟨b.toNat - 0xC0, 1, 0x80, 0xBF⟩
  else if b = 0xE0 then some ⟨0, 2, 0xA0, 0xBF⟩
  else if b = 0xED then some ⟨0xD, 2, 0x80, 0x9F⟩
  else if b ≤ 0xEF then some ⟨b.toNat - 0xE0, 2, 0x80, 0xBF⟩
  else if b = 0xF0 then some ⟨0, 3, 0x90, 0xBF⟩
  else if b ≤ 0xF3 then some ⟨b.toNat - 0xF0, 3, 0x80, 0xBF⟩
  else if b = 0xF4 then some ⟨4, 3, 0x80, 0x8F⟩
  else none

/-- A piece of a byte string: a scalar value, or bytes that encode none. -/
inductive Piece where
  | scalar (c : Char)
  | invalid (bytes : List UInt8)
  deriving DecidableEq, Repr

/-- The bytes a piece was read from. -/
def Piece.bytes : Piece → List UInt8
  | .scalar c => String.utf8EncodeChar c
  | .invalid bytes => bytes

/-- The character a piece stands for, if it stands for one. -/
def Piece.scalar? : Piece → Option Char
  | .scalar c => some c
  | .invalid _ => none

/-- The character that shows a piece: itself, or the replacement character. -/
def Piece.shown : Piece → Char
  | .scalar c => c
  | .invalid _ => Char.ofNat 0xFFFD

/-- Reads the `n` bytes that still belong to an encoding. The first must lie within `low` and
`high`; `value` is what the bytes in `taken` amount to. -/
def follow : (n : Nat) → (low high : UInt8) → (value : Nat) → (taken : List UInt8) →
    List UInt8 → Piece × List UInt8
  | 0, _, _, value, _, rest => (.scalar (Char.ofNat value), rest)
  | _ + 1, _, _, _, taken, [] => (.invalid taken, [])
  | n + 1, low, high, value, taken, b :: rest =>
    if low ≤ b ∧ b ≤ high then
      follow n 0x80 0xBF (value * 64 + (b.toNat - 0x80)) (taken ++ [b]) rest
    else (.invalid taken, b :: rest)

/-- The piece that begins with byte `b`, and the bytes after it. -/
def next (b : UInt8) (rest : List UInt8) : Piece × List UInt8 :=
  if b < 0x80 then (.scalar (Char.ofNat b.toNat), rest)
  else
    match Lead.of? b with
    | none => (.invalid [b], rest)
    | some lead => follow lead.following lead.low lead.high lead.payload [b] rest

theorem follow_length (n : Nat) (low high : UInt8) (value : Nat) (taken rest : List UInt8) :
    (follow n low high value taken rest).2.length ≤ rest.length := by
  induction n generalizing low high value taken rest with
  | zero => simp [follow]
  | succ n ih =>
    cases rest with
    | nil => simp [follow]
    | cons b rest =>
      rw [follow]
      split
      · have := ih 0x80 0xBF (value * 64 + (b.toNat - 0x80)) (taken ++ [b]) rest
        simp only [List.length_cons]
        omega
      · simp

/-- Reading a piece leaves no more bytes than stood after its first one. -/
theorem next_length (b : UInt8) (rest : List UInt8) : (next b rest).2.length ≤ rest.length := by
  unfold next
  split
  · simp
  · split
    · simp
    · exact follow_length _ _ _ _ _ _

/-- The pieces of a byte string, from left to right. -/
def pieces : List UInt8 → List Piece
  | [] => []
  | b :: rest => (next b rest).1 :: pieces (next b rest).2
termination_by bytes => bytes.length
decreasing_by
  have := next_length b rest
  simp only [List.length_cons]
  omega

/-- Strict reading: the text whose encoding the bytes are. -/
def decode? (bytes : List UInt8) : Option (List Char) := (pieces bytes).mapM Piece.scalar?

/-- Lenient reading: each invalid piece becomes one replacement character. -/
def decodeLossy (bytes : List UInt8) : List Char := (pieces bytes).map Piece.shown

/-- The bytes of a text. -/
def encode (text : List Char) : List UInt8 := text.flatMap String.utf8EncodeChar

/-- How many bytes a text takes. -/
def size : List Char → Nat
  | [] => 0
  | c :: text => c.utf8Size + size text

end UserDirectory.Utf8
