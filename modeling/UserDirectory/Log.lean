import UserDirectory.Text.Chars
import UserDirectory.Text.Quoted

/-!
# The log

What the service reports about itself, one line each.

Which lines are written is up to the filter in `RUST_LOG`. The log here is what the filter
`user_service=debug` lets through: every line of the service itself, down to the level of a lookup.
Lines of the server beneath it, such as those on each access, are not part of it. A filter that lets
less through leaves lines out, and without the variable there are none, since the service reports
no errors of its own.
-/

namespace UserDirectory

/-- Something worth a line in the log. -/
inductive LogEntry where
  /-- The settings have been read. -/
  | settingsLoaded
  /-- A store has been made. -/
  | storeReady
  /-- Users can be looked up. -/
  | handlerReady
  /-- The service is about to listen. -/
  | starting (host : String) (port : UInt16)
  /-- A user is looked up. -/
  | lookup (id : String)
  deriving DecidableEq, Repr

/-- The line of an entry, as characters: its level, the part of the service it comes from, and its
text. -/
def LogEntry.text : LogEntry → List Char
  | .settingsLoaded => chars "INFO user_service: Environment loaded"
  | .storeReady => chars "INFO user_service::modules::user::store: InMemoryUserStore initialized"
  | .handlerReady => chars "INFO user_service::modules::user::handle: UserHandler initialized"
  | .starting host port =>
    chars "INFO user_service: Starting server at http://" ++ chars host ++ chars ":"
      ++ Nat.toDigits 10 port.toNat
  | .lookup id =>
    chars "DEBUG user_service::modules::user::handle: Looking up user " ++ Quoted.ofString id

/-- The line of an entry. -/
def LogEntry.line (e : LogEntry) : String := String.ofList e.text

end UserDirectory
