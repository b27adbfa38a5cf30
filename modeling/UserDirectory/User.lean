import UserDirectory.Json.Record

/-!
# Users

The record the directory holds, with its two texts: JSON, which is read and written, and a display
text, which is only written. The blank user, with empty texts and the beginning of 1970, answers
for every id that is not known.
-/

namespace UserDirectory

/-- A user of the directory. -/
structure User where
  id : String
  name : String
  email : String
  createdAt : Instant
  deriving DecidableEq

namespace User

/-- The user with empty texts, created at the epoch. -/
def blank : User := ⟨"", "", "", .epoch⟩

instance : Inhabited User := ⟨blank⟩

/-- A user who has no id and no time of creation yet. -/
def named (name email : String) : User := { blank with name := name, email := email }

/-- Whether the directory takes the user; it takes every one, with empty texts too. -/
def accepted (_ : User) : Bool := true

/-- How the status of an active user is named. -/
def activeStatus : String := "active"

/-- How the status of an inactive user is named. -/
def inactiveStatus : String := "inactive"

/-! ## Writing -/

/-- The JSON text, as characters: an object with the fields in order and no blanks. -/
def jsonText (u : User) : List Char :=
  chars "\x7b\"id\":" ++ Json.literal u.id.toList
    ++ chars ",\"name\":" ++ Json.literal u.name.toList
    ++ chars ",\"email\":" ++ Json.literal u.email.toList
    ++ chars ",\"created_at\":" ++ Json.literal u.createdAt.text ++ chars "\x7d"

/-- The JSON text. -/
def toJson (u : User) : String := String.ofList u.jsonText

/-- The display text, as characters: texts quoted, the instant bare. -/
def displayText (u : User) : List Char :=
  chars "User \x7b id: " ++ Quoted.ofString u.id
    ++ chars ", name: " ++ Quoted.ofString u.name
    ++ chars ", email: " ++ Quoted.ofString u.email
    ++ chars ", created_at: " ++ u.createdAt.text ++ chars " \x7d"

/-- The display text. -/
def display (u : User) : String := String.ofList u.displayText

/-! ## Reading -/

/-- A user some of whose fields have been read. -/
structure Draft where
  id : Option String
  name : Option String
  email : Option String
  createdAt : Option Instant

/-- The user, if no field is open; else the first open field. -/
def Draft.finish (d : Draft) : Except Json.Fault User :=
  match d.id, d.name, d.email, d.createdAt with
  | some id, some name, some email, some createdAt => .ok ⟨id, name, email, createdAt⟩
  | none, _, _, _ => .error (.missingField "id")
  | _, none, _, _ => .error (.missingField "name")
  | _, _, none, _ => .error (.missingField "email")
  | _, _, _, none => .error (.missingField "created_at")

/-- The record of a user. -/
def shape : Json.Shape Draft User where
  title := "User"
  fields := [
    .of "id" (·.id.isSome) (fun text d => { d with id := some text })
      Json.readText Json.readText_length,
    .of "name" (·.name.isSome) (fun text d => { d with name := some text })
      Json.readText Json.readText_length,
    .of "email" (·.email.isSome) (fun text d => { d with email := some text })
      Json.readText Json.readText_length,
    .of "created_at" (·.createdAt.isSome) (fun t d => { d with createdAt := some t })
      Json.readInstant Json.readInstant_length]
  blank := ⟨none, none, none, none⟩
  finish := Draft.finish

/-- Reads a user from JSON text. -/
def ofJson (text : String) : Except Json.Error User := shape.read text.toList

end User

end UserDirectory
