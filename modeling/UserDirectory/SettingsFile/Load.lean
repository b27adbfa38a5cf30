import UserDirectory.Environment
import UserDirectory.SettingsFile.Entry
import UserDirectory.Text.Chars
import UserDirectory.Text.Quoted

/-!
# Loading a settings file

The entries of a file are set one after the other. A variable that is set to a text already keeps
it, so that the process wins over the file and the first entry wins over later ones; a variable
whose value is not text is replaced. Loading stops at the first malformed line, and what was set
before stays. A value with a NUL in it cannot be set, and then loading has no result.

A name in a value stands for what the variable is by then, and for nothing if it is not set to a
text.
-/

namespace UserDirectory

/-- A value that no variable can have, because it holds a NUL. -/
structure Unsettable where
  name : String
  value : List Char
  deriving DecidableEq, Repr

/-- The trouble in words, as characters. -/
def Unsettable.text (u : Unsettable) : List Char :=
  chars "failed to set environment variable `" ++ Quoted.ofString u.name ++ chars "` to `"
    ++ Quoted.quote u.value ++ chars "`: file name contained an unexpected NUL byte"

namespace Environment

/-- The text that a name in a value stands for. -/
def substitute (env : Environment) (name : List Char) : List Char :=
  ((env.named? name).bind Utf8.decode?).getD []

/-- Sets a variable unless it is set to a text already. -/
def setDefault (env : Environment) (name : String) (value : List Char) :
    Except Unsettable Environment :=
  if (env.text? name).isSome then .ok env
  else if h : 0 ∈ Utf8.encode value then .error ⟨name, value⟩
  else .ok (env.set ⟨name, Utf8.encode value, h⟩)

/-- Sets the entries of logical lines, up to the first malformed one. -/
def loadLines (env : Environment) : List (List Char) → Except Unsettable Environment
  | [] => .ok env
  | line :: lines =>
    match SettingsFile.Entry.read env.substitute line with
    | .malformed => .ok env
    | .nothing => env.loadLines lines
    | .entry key value =>
      match env.setDefault key value with
      | .error cause => .error cause
      | .ok env => env.loadLines lines

/-- Loads a settings file. -/
def load (env : Environment) (file : List UInt8) : Except Unsettable Environment :=
  env.loadLines (SettingsFile.logicalLines file)

end Environment

end UserDirectory
