import UserDirectory.Text.Chars
import UserDirectory.Text.Quoted

/-!
# Failures

What keeps the service from running: a setting that cannot be read, or a refusal by the operating
system. Each has a message for people and a display text.
-/

namespace UserDirectory

/-- A refusal by the operating system, or a trouble described in words. -/
inductive IoError where
  | addressInUse
  | addressUnavailable
  | permissionDenied
  | other (message : String)
  deriving DecidableEq, Repr

namespace IoError

/-- The trouble in words, as characters. -/
def text : IoError → List Char
  | .addressInUse => chars "Address already in use (os error 98)"
  | .addressUnavailable => chars "Cannot assign requested address (os error 99)"
  | .permissionDenied => chars "Permission denied (os error 13)"
  | .other message => chars message

/-- The display text, as characters. -/
def displayText : IoError → List Char
  | .addressInUse =>
    chars "Os \x7b code: 98, kind: AddrInUse, message: \"Address already in use\" \x7d"
  | .addressUnavailable =>
    chars "Os \x7b code: 99, kind: AddrNotAvailable, message: "
      ++ chars "\"Cannot assign requested address\" \x7d"
  | .permissionDenied =>
    chars "Os \x7b code: 13, kind: PermissionDenied, message: \"Permission denied\" \x7d"
  | .other message =>
    chars "Custom \x7b kind: Other, error: " ++ Quoted.ofString message ++ chars " \x7d"

end IoError

/-- Why the service does not run. -/
inductive Failure where
  | io (cause : IoError)
  /-- The setting `key` has a value that cannot be read. -/
  | invalidSetting (key value : String)
  deriving DecidableEq, Repr

namespace Failure

/-- The failure in words, as characters. -/
def text : Failure → List Char
  | .io cause => chars "IO Error: " ++ cause.text
  | .invalidSetting key value =>
    chars "Invalid value for " ++ chars key ++ chars ": " ++ Quoted.ofString value

/-- The failure in words. -/
def message (f : Failure) : String := String.ofList f.text

/-- The display text, as characters. -/
def displayText : Failure → List Char
  | .io cause => chars "Io(" ++ cause.displayText ++ chars ")"
  | .invalidSetting key value =>
    chars "InvalidConfig \x7b key: " ++ Quoted.ofString key ++ chars ", value: "
      ++ Quoted.ofString value ++ chars " \x7d"

/-- The display text. -/
def display (f : Failure) : String := String.ofList f.displayText

end Failure

end UserDirectory
