import UserDirectory.Launch
import UserDirectory.Proofs.Isolation
import UserDirectory.Proofs.Loading
import UserDirectory.Proofs.SettingsFile

/-!
# How a run of the service goes

A run goes one of four ways, and which one is decided by the settings and the machine, in this
order: the settings cannot be read, the address is refused, the number of workers is out of bounds,
or the service serves. The settings are those of the environment after the file has been loaded. A
file without a NUL can always be loaded, and each variable then has its value from where
`Environment.Origin` says, or `Environment.Replacement` if the process has set it to something that
is not text.

A service that serves does so over a store that nobody puts anything in, so it knows no user, and
every request leaves it so.
-/

namespace UserDirectory.Launch

open SettingsFile

/-- A way that a run can go. -/
inductive Fate where
  /-- A setting cannot be read. -/
  | misconfigured (cause : Failure)
  /-- The address is refused. -/
  | refused (s : Settings) (cause : IoError)
  /-- There are no workers, or too many. -/
  | miscounted (s : Settings)
  | serving (s : Settings)

/-- Which way a run goes, in the environment after the file has been loaded. -/
def Fate.Decided (machine : Machine) (loaded : Environment) : Fate → Prop
  | .misconfigured cause => Settings.read loaded = .error cause
  | .refused s cause =>
    Settings.read loaded = .ok s ∧ machine.refusal? s.host s.port = some cause
  | .miscounted s =>
    Settings.read loaded = .ok s ∧ machine.refusal? s.host s.port = none ∧
      (s.workers = 0 ∨ 512 < s.workers)
  | .serving s =>
    Settings.read loaded = .ok s ∧ machine.refusal? s.host s.port = none ∧
      ¬ (s.workers = 0 ∨ 512 < s.workers)

/-- Everything that can be seen of a run. -/
structure Run.Seen (run : Run) (exit : Nat) (brokenOff : Bool) (errors : List String)
    (log : List LogEntry) (replies : List (Option Reply)) : Prop where
  exit_eq : run.ending.exit? = some exit
  brokenOff_eq : run.ending.brokenOff = brokenOff
  errors_eq : run.ending.errors = errors
  log_eq : run.log = log
  replies_eq : run.replies = replies

/-- The lines of the lookups that requests lead to. -/
def lookupLog (requests : List Request) : List LogEntry :=
  (requests.filter fun r => r.route = .user).map fun r => .lookup (userIdOfPath r.uri.path)

/-- What is seen of a run that goes a way. -/
def Fate.Shows (requests : List Request) (run : Run) : Fate → Prop
  | .misconfigured cause =>
    run.Seen 1 false ["Error: " ++ cause.display] [] (requests.map fun _ => none)
  | .refused s cause =>
    run.Seen 1 false ["Error: " ++ (Failure.io cause).display]
      [.settingsLoaded, .storeReady, .handlerReady, .starting s.host s.port]
      (requests.map fun _ => none)
  | .miscounted s =>
    run.Seen 101 true
      [if s.workers = 0 then "assertion `left != right` failed: Workers must be greater than 0"
        else "Workers must not exceed 512"]
      [.settingsLoaded, .storeReady, .handlerReady, .starting s.host s.port]
      (requests.map fun _ => none)
  | .serving s =>
    run.Seen 0 false []
      ([.settingsLoaded, .storeReady, .handlerReady, .starting s.host s.port]
        ++ lookupLog requests)
      (requests.map fun r => some (answer Store.empty.directory r).reply) ∧
    -- the application over a store: after any number of the requests it is as empty as before
    (∀ n, Store.empty.run Store.directory ((requests.take n).map .request)
      = ((requests.take n).map fun r => .answered (answer Store.empty.directory r), Store.empty)) ∧
    ∀ r ∈ requests, r.route = .user →
      (answer Store.empty.directory r).reply = .json 200 User.blank.toJson

/-! ## Which way a run goes -/

theorem Fate.Decided.unique {machine : Machine} {loaded : Environment} {fate other : Fate}
    (h : fate.Decided machine loaded) (h' : other.Decided machine loaded) : other = fate := by
  -- two different ways disagree about the settings, the refusal or the bounds
  cases fate <;> cases other <;> grind [Fate.Decided]

/-- A run goes one way. -/
theorem existsUnique_decided (machine : Machine) (loaded : Environment) :
    ∃! fate : Fate, fate.Decided machine loaded := by
  have hexists : ∃ fate : Fate, fate.Decided machine loaded := by
    cases hread : Settings.read loaded with
    | error cause => exact ⟨.misconfigured cause, hread⟩
    | ok s =>
      cases hrefusal : machine.refusal? s.host s.port with
      | some cause => exact ⟨.refused s cause, hread, hrefusal⟩
      | none =>
        by_cases hworkers : s.workers = 0 ∨ 512 < s.workers
        · exact ⟨.miscounted s, hread, hrefusal, hworkers⟩
        · exact ⟨.serving s, hread, hrefusal, hworkers⟩
  obtain ⟨fate, hfate⟩ := hexists
  exact ⟨fate, hfate, fun _ => hfate.unique⟩

/-! ## Answers of a service that serves -/

/-- The requests of calls, one by one. -/
def Requested (calls : List Call) (requests : List Request) : Prop :=
  calls.map (fun c => Request.make c.method c.target [] "") = requests.map .ok

theorem Requested.map_none {calls : List Call} {requests : List Request}
    (h : Requested calls requests) :
    (calls.map fun _ => (none : Option Reply)) = requests.map fun _ => none := by
  have hlength : calls.length = requests.length := by simpa using congrArg List.length h
  rw [List.map_const', List.map_const', hlength]

theorem answerCall_of_make (store : Store) {c : Call} {r : Request}
    (h : Request.make c.method c.target [] "" = .ok r) :
    answerCall store c = answer store.directory r := by
  rw [answerCall, h]

theorem Requested.map_answerCall {calls : List Call} {requests : List Request}
    (h : Requested calls requests) (store : Store) :
    calls.map (answerCall store) = requests.map (answer store.directory) := by
  induction calls generalizing requests with
  | nil =>
    obtain rfl := List.map_eq_nil_iff.mp h.symm
    rfl
  | cons c calls ih =>
    obtain ⟨r, requests, rfl, hr, hrequests⟩ := List.map_eq_cons_iff.mp h.symm
    rw [List.map_cons, List.map_cons, ih hrequests.symm, answerCall_of_make store hr.symm]

/-- A request leads to one lookup on the user route, and to none elsewhere. -/
theorem log_answer (directory : Directory) (r : Request) :
    (answer (some directory) r).log = lookupLog [r] := by
  unfold answer lookupLog
  cases hroute : r.route with
  | user => simp [hroute, showUser, Answer.log]
  | health => simp [hroute, Answer.log]
  | nowhere => simp [hroute, Answer.log]

theorem flatMap_log_answer (directory : Directory) (requests : List Request) :
    (requests.map (answer (some directory))).flatMap Answer.log = lookupLog requests := by
  induction requests with
  | nil => rfl
  | cons r requests ih =>
    rw [List.map_cons, List.flatMap_cons, ih, log_answer]
    unfold lookupLog
    rw [← List.map_append, ← List.filter_append, List.singleton_append]

/-- Whoever is asked for, an empty store knows the blank user only. -/
theorem reply_of_route_eq_user {r : Request} (h : r.route = .user) :
    (answer Store.empty.directory r).reply = .json 200 User.blank.toJson := by
  unfold answer
  rw [h]
  rfl

/-! ## What is seen of a run -/

theorem errors_failed (cause : Failure) :
    (End.failed cause).errors = ["Error: " ++ cause.display] := by
  rw [End.errors, String.ofList_append, ofList_chars]
  rfl

section

variable {machine : Machine} {env loaded : Environment} {file : List UInt8} {s : Settings}

theorem run_of_read_error (hload : env.load file = .ok loaded) {cause : Failure}
    (hread : Settings.read loaded = .error cause) (calls : List Call) (stopped : Bool) :
    run machine env file calls stopped = ⟨.failed cause, [], calls.map fun _ => none⟩ := by
  simp only [run, hload, hread]

theorem run_of_read_ok (hload : env.load file = .ok loaded) (hread : Settings.read loaded = .ok s)
    (calls : List Call) (stopped : Bool) :
    run machine env file calls stopped = withSettings machine s calls stopped := by
  simp only [run, hload, hread]

/-- A run that meets an obstacle reaches nobody. -/
theorem run_of_obstacle (hload : env.load file = .ok loaded)
    (hread : Settings.read loaded = .ok s) {ending : End}
    (hobstacle : obstacle? machine s = some ending) (calls : List Call) (stopped : Bool) :
    run machine env file calls stopped = ⟨ending, startLog s, calls.map fun _ => none⟩ := by
  rw [run_of_read_ok hload hread, withSettings, hobstacle]

/-- The number of workers is looked at once the address is bound. -/
theorem obstacle?_of_bound (hrefusal : machine.refusal? s.host s.port = none) :
    obstacle? machine s
      = if s.workers = 0 then some .tooFewWorkers
        else if 512 < s.workers then some .tooManyWorkers
        else none := by
  rw [obstacle?, hrefusal]

/-- A run that meets no obstacle answers every request over an empty store. -/
theorem run_serving (hload : env.load file = .ok loaded) (hread : Settings.read loaded = .ok s)
    (hobstacle : obstacle? machine s = none) (hreach : machine.reachable = true)
    {calls : List Call} {requests : List Request} (hcalls : Requested calls requests)
    (stopped : Bool) :
    run machine env file calls stopped
      = ⟨.served stopped, startLog s ++ lookupLog requests,
          requests.map fun r => some (answer Store.empty.directory r).reply⟩ := by
  rw [run_of_read_ok hload hread, withSettings, hobstacle]
  simp only [hreach, if_true, hcalls.map_answerCall, Store.directory, flatMap_log_answer,
    List.map_map]
  rfl

/-- What is seen of a run is what its way shows. -/
theorem Fate.Decided.shows {fate : Fate} (hfate : fate.Decided machine loaded)
    (hload : env.load file = .ok loaded) (hreach : machine.reachable = true)
    {calls : List Call} {requests : List Request} (hcalls : Requested calls requests) :
    fate.Shows requests (run machine env file calls true) := by
  cases fate with
  | misconfigured cause =>
    rw [run_of_read_error hload hfate]
    exact ⟨rfl, rfl, errors_failed cause, rfl, hcalls.map_none⟩
  | refused s cause =>
    obtain ⟨hread, hrefusal⟩ := hfate
    have hobstacle : obstacle? machine s = some (.failed (.io cause)) := by
      rw [obstacle?, hrefusal]
    rw [run_of_obstacle hload hread hobstacle]
    exact ⟨rfl, rfl, errors_failed _, rfl, hcalls.map_none⟩
  | miscounted s =>
    obtain ⟨hread, hrefusal, hworkers⟩ := hfate
    have hobstacle := obstacle?_of_bound hrefusal
    by_cases hzero : s.workers = 0
    · rw [if_pos hzero] at hobstacle
      rw [run_of_obstacle hload hread hobstacle]
      exact ⟨rfl, rfl, by rw [if_pos hzero]; rfl, rfl, hcalls.map_none⟩
    · rw [if_neg hzero, if_pos (hworkers.resolve_left hzero)] at hobstacle
      rw [run_of_obstacle hload hread hobstacle]
      exact ⟨rfl, rfl, by rw [if_neg hzero]; rfl, rfl, hcalls.map_none⟩
  | serving s =>
    obtain ⟨hread, hrefusal, hworkers⟩ := hfate
    rw [not_or] at hworkers
    have hobstacle : obstacle? machine s = none := by
      rw [obstacle?_of_bound hrefusal, if_neg hworkers.1, if_neg hworkers.2]
    rw [run_serving hload hread hobstacle hreach hcalls]
    exact ⟨⟨rfl, rfl, rfl, rfl, rfl⟩, fun n => Store.run_requests _ _ _,
      fun r _ huser => reply_of_route_eq_user huser⟩

end

/-- **A run goes one way, and what is seen of it is decided by that way.** For every environment,
every file without a NUL and all requests that reach the service where it listens: the file is
loaded, and every variable has its value from the process or from the first line that defines it;
then there is one way to go, decided in order by the settings, the address and the number of
workers; and the exit code, the error output, the log and the replies are those of that way. -/
theorem run_goes_one_way (machine : Machine) (hreach : machine.reachable = true)
    (env : Environment) (file : List UInt8) (hfile : 0 ∉ file) (calls : List Call)
    (requests : List Request) (hcalls : Requested calls requests) :
    ∃ loaded, env.load file = .ok loaded ∧
      (∀ name, (env.get? name = none ∨ ∃ text, env.get? name = some (Utf8.encode text)) →
        ∀ value, loaded.get? name = value ↔ Environment.Origin env file name value) ∧
      (∀ name, env.IsMalformed name →
        ∀ value, loaded.get? name = value ↔ Environment.Replacement env file name value) ∧
      (∃! fate : Fate, fate.Decided machine loaded) ∧
      ∀ fate : Fate, fate.Decided machine loaded →
        fate.Shows requests (run machine env file calls true) := by
  obtain ⟨loaded, hload⟩ := env.exists_load hfile
  exact ⟨loaded, hload, fun _ hname _ => Environment.get?_eq_iff_origin hload hname,
    fun _ hname _ => Environment.get?_eq_iff_replacement hload hname.text?_eq_none,
    existsUnique_decided machine loaded, fun _ hfate => hfate.shows hload hreach hcalls⟩

/-- A user and the health of a service that the file sends to another port: they are answered where
the default number of workers stands; a file that asks for no workers breaks the run off; and an
address that is refused ends it before the workers are counted. -/
theorem run_goes_one_way_two_calls :
    0 ∉ Utf8.encode (chars "PORT=8081\n") ∧ 0 ∉ Utf8.encode (chars "PORT=8081\nWORKERS=0\n") ∧
    Requested [⟨"GET", "/users/a?v=1"⟩, ⟨"GET", "/"⟩]
      [⟨"GET", ⟨"/users/a", some "v=1"⟩, [], ""⟩, ⟨"GET", ⟨"/", none⟩, [], ""⟩] ∧
    (∃ loaded, Environment.empty.load (Utf8.encode (chars "PORT=8081\n")) = .ok loaded ∧
      loaded.get? "PORT" = some (Utf8.encode (chars "8081")) ∧ loaded.get? "WORKERS" = none ∧
      (run ⟨fun _ _ => none, true⟩ .empty (Utf8.encode (chars "PORT=8081\n"))
          [⟨"GET", "/users/a?v=1"⟩, ⟨"GET", "/"⟩] true).Seen 0 false []
        [.settingsLoaded, .storeReady, .handlerReady, .starting "localhost" 8081, .lookup "a"]
        [some (.json 200 User.blank.toJson), some healthReply]) ∧
    (run ⟨fun _ _ => none, true⟩ .empty (Utf8.encode (chars "PORT=8081\nWORKERS=0\n"))
        [⟨"GET", "/users/a?v=1"⟩, ⟨"GET", "/"⟩] true).Seen 101 true
      ["assertion `left != right` failed: Workers must be greater than 0"]
      [.settingsLoaded, .storeReady, .handlerReady, .starting "localhost" 8081] [none, none] ∧
    (run ⟨fun _ _ => some .addressInUse, true⟩ .empty
        (Utf8.encode (chars "PORT=8081\nWORKERS=0\n"))
        [⟨"GET", "/users/a?v=1"⟩, ⟨"GET", "/"⟩] true).Seen 1 false
      ["Error: " ++ (Failure.io .addressInUse).display]
      [.settingsLoaded, .storeReady, .handlerReady, .starting "localhost" 8081] [none, none] := by
  have hport : 0 ∉ Utf8.encode (chars "PORT=8081\n") := by decide
  have hworkers : 0 ∉ Utf8.encode (chars "PORT=8081\nWORKERS=0\n") := by decide
  have hcalls : Requested [⟨"GET", "/users/a?v=1"⟩, ⟨"GET", "/"⟩]
      [⟨"GET", ⟨"/users/a", some "v=1"⟩, [], ""⟩, ⟨"GET", ⟨"/", none⟩, [], ""⟩] := by rfl
  have hlines : intact (logicalLines (Utf8.encode (chars "PORT=8081\n")))
      = [chars "PORT=8081"] := by decide +kernel
  have hread : (Environment.empty.load (Utf8.encode (chars "PORT=8081\n"))).map Settings.read
      = .ok (.ok ⟨"localhost", 8081, 2, 100⟩) := by decide +kernel
  have hread' : (Environment.empty.load (Utf8.encode (chars "PORT=8081\nWORKERS=0\n"))).map
      Settings.read = .ok (.ok ⟨"localhost", 8081, 0, 100⟩) := by decide +kernel
  refine ⟨hport, hworkers, hcalls, ?_, ?_, ?_⟩
  · obtain ⟨loaded, hload, horigin, -, -, hshows⟩ :=
      run_goes_one_way ⟨fun _ _ => none, true⟩ rfl .empty _ hport _ _ hcalls
    rw [hload] at hread
    have hseen := (hshows (.serving _) ⟨Except.ok.inj hread, rfl, by decide⟩).1
    refine ⟨loaded, hload, (horigin _ (.inl rfl) _).mpr ?_, (horigin _ (.inl rfl) _).mpr ?_,
      hseen.exit_eq, hseen.brokenOff_eq, hseen.errors_eq, hseen.log_eq.trans ?_,
      hseen.replies_eq.trans ?_⟩
    · exact @Environment.Origin.file _ _ _ [] [] (chars "PORT=8081") (chars "8081") _ rfl hlines
        (by simp) rfl (by decide +kernel)
    · exact .unset rfl (by rw [hlines]; decide)
    · decide +kernel
    · decide +kernel
  · obtain ⟨loaded, hload, -, -, -, hshows⟩ :=
      run_goes_one_way ⟨fun _ _ => none, true⟩ rfl .empty _ hworkers _ _ hcalls
    rw [hload] at hread'
    exact hshows (.miscounted _) ⟨Except.ok.inj hread', rfl, .inl rfl⟩
  · obtain ⟨loaded, hload, -, -, -, hshows⟩ :=
      run_goes_one_way ⟨fun _ _ => some .addressInUse, true⟩ rfl .empty _ hworkers _ _ hcalls
    rw [hload] at hread'
    exact hshows (.refused _ _) ⟨Except.ok.inj hread', rfl⟩

end UserDirectory.Launch
