import UserDirectory.Json.Record

/-!
# Envelopes

A reply that carries a status of its own and a message for people. The status is any 32-bit number;
over HTTP only those from 100 to 999 can be shown as they are.
-/

namespace UserDirectory

/-- A status and a message. -/
structure Envelope where
  status : Int32
  message : String
  deriving DecidableEq

namespace Envelope

/-- An envelope that reports success. -/
def ok (message : String) : Envelope := ⟨200, message⟩

/-- The status as an unsigned number of 16 bits, if it is one. Nothing wraps around. -/
def code? (e : Envelope) : Option UInt16 :=
  if 0 ≤ e.status.toInt ∧ e.status.toInt < 65536 then some (UInt16.ofNat e.status.toInt.toNat)
  else none

/-- Whether a number can be a status over HTTP: it has three digits. -/
def isHttpStatus (code : UInt16) : Bool := 100 ≤ code && code < 1000

/-- The status shown over HTTP: the envelope's own if it is a possible one, else 500. -/
def httpStatus (e : Envelope) : Nat := ((e.code?.filter isHttpStatus).getD 500).toNat

/-! ## Writing -/

/-- The JSON text, as characters: an object with the fields in order and no blanks. -/
def jsonText (e : Envelope) : List Char :=
  chars "\x7b\"status\":" ++ Digits.signed e.status.toInt
    ++ chars ",\"message\":" ++ Json.literal e.message.toList ++ chars "\x7d"

/-- The JSON text. -/
def toJson (e : Envelope) : String := String.ofList e.jsonText

/-- The display text, as characters. -/
def displayText (e : Envelope) : List Char :=
  chars "Response \x7b status: " ++ Digits.signed e.status.toInt
    ++ chars ", message: " ++ Quoted.ofString e.message ++ chars " \x7d"

/-- The display text. -/
def display (e : Envelope) : String := String.ofList e.displayText

/-! ## Reading -/

/-- An envelope some of whose fields have been read. -/
structure Draft where
  status : Option Int32
  message : Option String

/-- The envelope, if no field is open; else the first open field. -/
def Draft.finish (d : Draft) : Except Json.Fault Envelope :=
  match d.status, d.message with
  | some status, some message => .ok ⟨status, message⟩
  | none, _ => .error (.missingField "status")
  | _, none => .error (.missingField "message")

/-- The record of an envelope. -/
def shape : Json.Shape Draft Envelope where
  title := "Response"
  fields := [
    .of "status" (·.status.isSome) (fun n d => { d with status := some n })
      Json.readInt32 Json.readInt32_length,
    .of "message" (·.message.isSome) (fun text d => { d with message := some text })
      Json.readText Json.readText_length]
  blank := ⟨none, none⟩
  finish := Draft.finish

/-- Reads an envelope from JSON text. -/
def ofJson (text : String) : Except Json.Error Envelope := shape.read text.toList

end Envelope

end UserDirectory
