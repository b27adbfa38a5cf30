import UserDirectory.Application
import UserDirectory.SettingsFile.Load
import UserDirectory.Settings

/-!
# Launching the service

The service loads the settings file, reads its settings, makes an empty store, binds to its address
and serves. It ends early if the file holds a value that cannot be set, if a setting cannot be read,
if the address is refused, or if the number of workers is out of bounds, in this order.

The log of a run is what the filter `RUST_LOG=user_service=debug` lets through; what else the
variable may hold, in the environment or in the file, is not looked at.

What only the operating system decides is given from outside (`Machine`): whether an address can be
bound, and whether clients reach the service at all.
-/

namespace UserDirectory

/-- What the operating system decides. -/
structure Machine where
  /-- The refusal to listen on a host and port, if there is one. -/
  refusal? : String → UInt16 → Option IoError
  /-- Whether clients can connect to the service. -/
  reachable : Bool

/-- A request as a client sends it. -/
structure Call where
  method : String
  target : String

namespace Launch

/-- How a run of the service ended. -/
inductive End where
  /-- It was told to stop, or has not stopped. -/
  | served (stopped : Bool)
  /-- The settings file holds a value that cannot be set. -/
  | unsettable (cause : Unsettable)
  /-- It could not start. -/
  | failed (cause : Failure)
  /-- There were no workers. -/
  | tooFewWorkers
  /-- There were more than 512 workers. -/
  | tooManyWorkers
  deriving DecidableEq, Repr

/-- The exit code; none as long as the service runs. -/
def End.exit? : End → Option Nat
  | .served stopped => if stopped then some 0 else none
  | .failed _ => some 1
  | .unsettable _ | .tooFewWorkers | .tooManyWorkers => some 101

/-- Whether the run was broken off. -/
def End.brokenOff : End → Bool
  | .unsettable _ | .tooFewWorkers | .tooManyWorkers => true
  | _ => false

/-- What is written to the error output. -/
def End.errors : End → List String
  | .served _ => []
  | .unsettable cause => [String.ofList cause.text]
  | .failed cause => [String.ofList (chars "Error: " ++ cause.displayText)]
  | .tooFewWorkers => ["assertion `left != right` failed: Workers must be greater than 0"]
  | .tooManyWorkers => ["Workers must not exceed 512"]

/-- A run of the service. -/
structure Run where
  ending : End
  /-- All that the service itself reports. -/
  log : List LogEntry
  /-- The reply to each call; none where there was no connection. -/
  replies : List (Option Reply)

/-- The lines of a start. -/
def startLog (s : Settings) : List LogEntry :=
  [.settingsLoaded, .storeReady, .handlerReady, .starting s.host s.port]

/-- Answers a call over a store. -/
def answerCall (store : Store) (c : Call) : Answer :=
  match Request.make c.method c.target [] "" with
  | .ok r => answer store.directory r
  | .error _ => ⟨.badRequest, []⟩

/-- How the service ends once its settings are read, unless it serves. -/
def obstacle? (machine : Machine) (s : Settings) : Option End :=
  match machine.refusal? s.host s.port with
  | some cause => some (.failed (.io cause))
  | none =>
    if s.workers = 0 then some .tooFewWorkers
    else if 512 < s.workers then some .tooManyWorkers
    else none

/-- Runs the service with the given settings. -/
def withSettings (machine : Machine) (s : Settings) (calls : List Call) (stopped : Bool) : Run :=
  match obstacle? machine s with
  | some ending => ⟨ending, startLog s, calls.map fun _ => none⟩
  | none =>
    if machine.reachable then
      let answers := calls.map (answerCall .empty)
      ⟨.served stopped, startLog s ++ answers.flatMap Answer.log, answers.map (some ·.reply)⟩
    else ⟨.served stopped, startLog s, calls.map fun _ => none⟩

/-- Runs the service in an environment, beside a settings file, and sends it calls. -/
def run (machine : Machine) (env : Environment) (file : List UInt8) (calls : List Call)
    (stopped : Bool) : Run :=
  match env.load file with
  | .error cause => ⟨.unsettable cause, [], calls.map fun _ => none⟩
  | .ok env =>
    match Settings.read env with
    | .error cause => ⟨.failed cause, [], calls.map fun _ => none⟩
    | .ok s => withSettings machine s calls stopped

end Launch

end UserDirectory
