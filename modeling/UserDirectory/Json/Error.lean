import UserDirectory.Decimal.Shortest
import UserDirectory.Text.Chars
import UserDirectory.Text.Digits
import UserDirectory.Text.Quoted
import UserDirectory.Time.Reading

/-!
# Why a text is no record

Reading stops at the first fault. The text may end too early, it may be malformed, or it may be
well-formed up to a point where the data are not those of the record.
-/

namespace UserDirectory.Json

/-- A number as read. One without fraction and exponent is an integer as long as it fits 64 bits;
minus zero is not an integer. -/
inductive Number where
  | integer (n : Int)
  | float (negative : Bool) (magnitude : Binary64)
  deriving DecidableEq, Repr

/-- What stands where another kind of value is due. -/
inductive Found where
  | null
  | boolean (b : Bool)
  | number (n : Number)
  | string (s : List Char)
  | sequence
  | map
  deriving DecidableEq, Repr

/-- What makes the data unfit for the record. -/
inductive Fault where
  /-- A field is named twice. -/
  | duplicateField (name : String)
  /-- A field is absent. -/
  | missingField (name : String)
  /-- An array ends after `found` of the `size` fields of the record. -/
  | invalidLength (found : Nat) (record : String) (size : Nat)
  /-- A value is of the wrong kind. -/
  | invalidType (found : Found) (expected : String)
  /-- An integer exceeds its bounds. -/
  | invalidValue (n : Int) (expected : String)
  /-- A string is not an instant. -/
  | time (cause : TimeError)
  deriving DecidableEq, Repr

/-- Why reading stopped. -/
inductive Error where
  /-- The text ended inside the value. -/
  | eof
  /-- The text is not well-formed, or something follows the value. -/
  | malformed
  /-- The data are not those of the record. -/
  | data (fault : Fault)
  deriving DecidableEq, Repr

/-- How a number is named in a message. -/
def Number.text : Number → List Char
  | .integer n => chars "integer `" ++ Digits.signed n ++ chars "`"
  | .float negative x =>
    chars "floating point `" ++ (if negative then ['-'] else []) ++ x.text ++ chars "`"

/-- How a value is named in a message. -/
def Found.text : Found → List Char
  | .null => chars "null"
  | .boolean b => chars (if b then "boolean `true`" else "boolean `false`")
  | .number n => n.text
  | .string s => chars "string " ++ Quoted.quote s
  | .sequence => chars "sequence"
  | .map => chars "map"

/-- The wording of the fault, as characters. -/
def Fault.text : Fault → List Char
  | .duplicateField name => chars "duplicate field `" ++ chars name ++ chars "`"
  | .missingField name => chars "missing field `" ++ chars name ++ chars "`"
  | .invalidLength found record size =>
    chars "invalid length " ++ Nat.toDigits 10 found ++ chars ", expected struct " ++ chars record
      ++ chars " with " ++ Nat.toDigits 10 size ++ chars " elements"
  | .invalidType found expected =>
    chars "invalid type: " ++ found.text ++ chars ", expected " ++ chars expected
  | .invalidValue n expected =>
    chars "invalid value: " ++ (Number.integer n).text ++ chars ", expected " ++ chars expected
  | .time cause => chars cause.message

/-- The wording of the fault. -/
def Fault.message (f : Fault) : String := String.ofList f.text

end UserDirectory.Json
