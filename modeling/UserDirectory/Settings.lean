import UserDirectory.Environment
import UserDirectory.Failure
import UserDirectory.Text.Digits

/-!
# Settings

Where the service listens, with how many workers, and how many connections it takes. Each setting
is a variable of the environment with a default for when it is not set.

A number is an optional plus sign and one or more decimal digits, within the bounds of its setting.
Settings are read in order, and the first that cannot be read is the failure; a value that is not
text cannot be read and is shown leniently.
-/

namespace UserDirectory

/-- The settings of the service. -/
structure Settings where
  host : String
  port : UInt16
  workers : UInt64
  maxConnections : UInt64
  deriving DecidableEq, Repr

namespace Settings

/-- The settings when no variable is set. -/
def default : Settings := ⟨"localhost", 8080, 2, 100⟩

/-- The default timeout. -/
def timeout : Nat := 30

/-- How often something that failed is tried again by default. -/
def maxRetries : Nat := 3

/-- Takes one more digit of a number, unless the number gets greater than `greatest`. -/
def takeDigit? (greatest n : Nat) (c : Char) : Option Nat :=
  if c.isDigit ∧ 10 * n + Digits.value [c] ≤ greatest then some (10 * n + Digits.value [c])
  else none

/-- Reads a number up to `greatest`, digit by digit: an optional plus sign and decimal digits. -/
def number? (greatest : Nat) (s : List Char) : Option Nat :=
  let digits :=
    match s with
    | '+' :: digits => digits
    | digits => digits
  if digits.isEmpty then none else digits.foldlM (takeDigit? greatest) 0

/-- Reads a host; any text will do. -/
def host? (s : List Char) : Option String := some (String.ofList s)

/-- Reads a port, a number of 16 bits. -/
def port? (s : List Char) : Option UInt16 := (number? 65535 s).map UInt16.ofNat

/-- Reads a count, a number of 64 bits. -/
def count? (s : List Char) : Option UInt64 := (number? 18446744073709551615 s).map UInt64.ofNat

/-- Reads one setting. -/
def setting {α : Type} (env : Environment) (key : String) (default : α)
    (read : List Char → Option α) : Except Failure α :=
  match env.get? key with
  | none => .ok default
  | some bytes =>
    match (Utf8.decode? bytes).bind read with
    | some a => .ok a
    | none => .error (.invalidSetting key (String.ofList (Utf8.decodeLossy bytes)))

/-- Reads the settings from the environment. -/
def read (env : Environment) : Except Failure Settings := do
  let host ← setting env "HOST" default.host host?
  let port ← setting env "PORT" default.port port?
  let workers ← setting env "WORKERS" default.workers count?
  let maxConnections ← setting env "MAX_CONNECTIONS" default.maxConnections count?
  .ok ⟨host, port, workers, maxConnections⟩

/-- Whether the service listens where it does by default. -/
def isDefaultAddress (s : Settings) : Bool := s.host = default.host && s.port = default.port

/-- The display text of where the service listens. -/
def displayAddress (s : Settings) : String :=
  String.ofList (chars "Config \x7b host: " ++ Quoted.ofString s.host ++ chars ", port: "
    ++ Nat.toDigits 10 s.port.toNat ++ chars " \x7d")

end Settings

end UserDirectory
