import UserDirectory.Envelope
import UserDirectory.Http.Message
import UserDirectory.Log
import UserDirectory.Store

/-!
# The application

How requests are answered.

* `GET /` tells that the service is up.
* `GET /users/<id>` shows the user under that id. The route is found by the match path, so that
  `users` may be spelled with escapes; the id is what follows a literal `/users/` in the raw path,
  undecoded, and the whole raw path if it does not begin so.
* All else is not found.

A request changes nothing: users come in by `Store.insert` only.
-/

namespace UserDirectory

/-- Where users are looked up: the user for every id. -/
abbrev Directory := String → User

/-- What every path to a user begins with. -/
def usersPath : List Char := ['/', 'u', 's', 'e', 'r', 's', '/']

/-- The id in a raw path: what follows one `/users/` in front, or else the whole path. -/
def userIdOfPath (path : String) : String :=
  match usersPath.isPrefixOf? path.toList with
  | some id => String.ofList id
  | none => path

/-- The routes. -/
inductive Route where
  | health
  | user
  | nowhere
  deriving DecidableEq, Repr

/-- The route of a request. -/
def Request.route (r : Request) : Route :=
  if r.method ≠ "GET" then .nowhere
  else if r.uri.matchPath = ['/'] then .health
  else if usersPath.isPrefixOf r.uri.matchPath then .user
  else .nowhere

/-- A reply, and the ids that were looked up for it. -/
structure Answer where
  reply : Reply
  asked : List String

/-- The lines an answer adds to the log. -/
def Answer.log (a : Answer) : List LogEntry := a.asked.map .lookup

/-- Shows the user that the request's path names. -/
def showUser (directory : Directory) (r : Request) : Answer :=
  let id := userIdOfPath r.uri.path
  ⟨.json 200 (directory id).toJson, [id]⟩

/-- The envelope as a reply. -/
def Envelope.reply (e : Envelope) : Reply := .json e.httpStatus e.toJson

/-- The reply that tells that the service is up. -/
def healthReply : Reply := (Envelope.ok "Server is running").reply

/-- Answers a request. There may be no directory to look users up in. -/
def answer (directory : Option Directory) (r : Request) : Answer :=
  match r.route, directory with
  | .health, _ => ⟨healthReply, []⟩
  | .user, some directory => showUser directory r
  | .user, none => ⟨.notConfigured, []⟩
  | .nowhere, _ => ⟨.notFound, []⟩

/-! ## Runs -/

/-- Something that happens to the application. -/
inductive Event where
  | insert (fresh : Fresh) (user : User)
  | request (r : Request)

/-- What an event leads to. -/
inductive Outcome where
  | inserted (id : String)
  | answered (a : Answer)

/-- Lets one event happen. The directory may consult the store. -/
def Store.step (directory : Store → Option Directory) (s : Store) : Event → Outcome × Store
  | .insert fresh user => let (id, s) := s.insert fresh user; (.inserted id, s)
  | .request r => (.answered (answer (directory s) r), s)

/-- Lets events happen one after the other. -/
def Store.run (directory : Store → Option Directory) : Store → List Event → List Outcome × Store
  | s, [] => ([], s)
  | s, event :: events =>
    let (outcome, s) := s.step directory event
    let (outcomes, s) := s.run directory events
    (outcome :: outcomes, s)

/-- The directory that is the store itself. -/
def Store.directory (s : Store) : Option Directory := some s.find

end UserDirectory
