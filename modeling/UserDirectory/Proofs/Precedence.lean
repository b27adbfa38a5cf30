import UserDirectory.Proofs.Except
import UserDirectory.Proofs.Launch
import UserDirectory.Proofs.Loading
import UserDirectory.Proofs.Settings

/-!
# Where settings come from

A setting is what the process has set it to; else what the first line of the settings file says that
defines it, among the lines before the first malformed one; else it is not set
(`Environment.Origin`). The lines that count keep their effect, although loading breaks off at a
malformed one.

This is so as long as the process has set the variable to a text, or not at all. A value that is not
text counts as none while the file is loaded: a line may put its own value in place of it, and only
if no line does it is found malformed (`reportsSetting_of_isMalformed`).
-/

namespace UserDirectory

open SettingsFile

/-- What cannot be decoded is no text. -/
theorem Utf8.ne_encode {bytes : List UInt8} (h : Utf8.decode? bytes = none) (text : List Char) :
    bytes ≠ Utf8.encode text :=
  decode?_eq_none_iff.mp h text

namespace Settings

/-- The variables that settings are read from, in order. -/
def names : List String := ["HOST", "PORT", "WORKERS", "MAX_CONNECTIONS"]

/-- Settings depend on no other variables. -/
theorem read_congr {env env' : Environment}
    (h : ∀ name ∈ names, env.get? name = env'.get? name) : read env = read env' := by
  simp only [names, List.forall_mem_cons] at h
  obtain ⟨hhost, hport, hworkers, hmax, -⟩ := h
  unfold read setting
  rw [hhost, hport, hworkers, hmax]

/-- A failure to read settings names one of their variables. -/
theorem FirstUnreadable.exists_key {env : Environment} {f : Failure}
    {forms : List (String × (List Char → Prop))} (h : FirstUnreadable env forms f) :
    ∃ key ∈ forms.map Prod.fst, ∃ value, f = .invalidSetting key value := by
  induction h with
  | here _ _ _ => exact ⟨_, List.mem_cons_self, _, rfl⟩
  | later _ _ ih =>
    obtain ⟨key, hkey, value, rfl⟩ := ih
    exact ⟨key, List.mem_cons_of_mem _ hkey, value, rfl⟩

/-- Settings cannot be read when one of their variables is not text. -/
theorem exists_read_eq_error {env : Environment} {name : String} (hname : name ∈ names)
    (hmalformed : env.IsMalformed name) :
    ∃ key ∈ names, ∃ value, read env = .error (.invalidSetting key value) := by
  cases hread : read env with
  | error f =>
    obtain ⟨key, hkey, value, rfl⟩ := (read_eq_error_iff.mp hread).exists_key
    exact ⟨key, hkey, value, rfl⟩
  | ok s =>
    obtain ⟨bytes, hset, hbad⟩ := hmalformed
    obtain ⟨v, hv, rfl⟩ := List.mem_map.mp (show name ∈ forms.map Prod.fst from hname)
    obtain ⟨text, htext, -⟩ := exists_read_eq_ok_iff.mp ⟨s, hread⟩ v hv bytes hset
    exact absurd htext (hbad text)

end Settings

namespace Environment

/-- Files whose lines agree up to the first malformed one leave the same behind. -/
theorem load_congr (env : Environment) {file file' : List UInt8}
    (h : intact (logicalLines file') = intact (logicalLines file)) :
    env.load file' = env.load file := by
  rw [load, load, ← loadLines_intact, h, loadLines_intact]

/-- **Settings come from the process, else from the first line that defines them.** For every
environment in which the variables of the settings are texts or not set, and every file without a
NUL: the file is loaded, and what is then read is what their origins give. Neither what stands from
the first malformed line on nor a line that defines a name again makes a difference. -/
theorem settings_come_from_first_definition (env : Environment) (file : List UInt8)
    (hfile : 0 ∉ file)
    (htext : ∀ name ∈ Settings.names,
      env.get? name = none ∨ ∃ text, env.get? name = some (Utf8.encode text)) :
    ∃ loaded, env.load file = .ok loaded ∧
      (∀ name ∈ Settings.names, ∀ value,
        loaded.get? name = value ↔ Origin env file name value) ∧
      (∀ view : Environment, (∀ name ∈ Settings.names, Origin env file name (view.get? name)) →
        Settings.read loaded = Settings.read view) ∧
      (∀ file', intact (logicalLines file') = intact (logicalLines file) →
        env.load file' = .ok loaded) ∧
      (∀ head rest rest', HasMalformed (head ++ [0x0A]) → file = head ++ 0x0A :: rest →
        env.load (head ++ 0x0A :: rest') = .ok loaded) ∧
      ∀ file' before line after name, logicalLines file = before ++ line :: after →
        (∃ l ∈ before, Defines l name) → Defines line name →
        logicalLines file' = before ++ after → env.load file' = .ok loaded := by
  obtain ⟨loaded, hload⟩ := env.exists_load hfile
  have horigin : ∀ name ∈ Settings.names, ∀ value,
      loaded.get? name = value ↔ Origin env file name value :=
    fun name hname _ => get?_eq_iff_origin hload (htext name hname)
  refine ⟨loaded, hload, horigin, ?_, ?_, ?_, ?_⟩
  · intro view hview
    exact Settings.read_congr fun name hname => (horigin name hname _).mpr (hview name hname)
  · intro file' hlines
    rw [load_congr env hlines, hload]
  · intro head rest rest' hbad hhead
    rw [← hload, hhead]
    exact load_congr env
      ((intact_logicalLines_append hbad rest').trans (intact_logicalLines_append hbad rest).symm)
  · intro file' before line after name hlines hbefore hline hlines'
    rw [← hload, load, load, hlines, hlines', loadLines_eraseRepeated env hbefore hline]

/-- A process that has set the number of workers. -/
def fourWorkers : Environment := ⟨[⟨"WORKERS", [0x34], by decide⟩]⟩

/-- A file that sets the host, in quotes over two lines and with the workers in it, and the port
twice, first to the workers; it breaks off before the number of connections. -/
def quotedHostFile : List UInt8 :=
  Utf8.encode (chars
    "HOST=\"a\nb $\x7bWORKERS\x7d\"\nPORT=$WORKERS\nPORT=82\n?\nMAX_CONNECTIONS=3\n")

/-- The host keeps its line feed, and the first line for the port counts. -/
theorem first_port_line_counts :
    0 ∉ quotedHostFile ∧
    (∀ name ∈ Settings.names, fourWorkers.get? name = none ∨
      ∃ text, fourWorkers.get? name = some (Utf8.encode text)) ∧
    ∃ loaded, fourWorkers.load quotedHostFile = .ok loaded ∧
      loaded.get? "HOST" = some (Utf8.encode (chars "a\nb 4")) ∧
      loaded.get? "PORT" = some (Utf8.encode (chars "4")) ∧
      loaded.get? "WORKERS" = some (Utf8.encode (chars "4")) ∧
      loaded.get? "MAX_CONNECTIONS" = none ∧
      Settings.read loaded = .ok ⟨"a\nb 4", 4, 4, 100⟩ := by
  have hfile : 0 ∉ quotedHostFile := by decide +kernel
  have htext : ∀ name ∈ Settings.names, fourWorkers.get? name = none ∨
      ∃ text, fourWorkers.get? name = some (Utf8.encode text) := by
    simp only [Settings.names, List.forall_mem_cons]
    exact ⟨.inl rfl, .inl rfl, .inr ⟨['4'], by decide⟩, .inl rfl, by simp⟩
  have hlines : intact (logicalLines quotedHostFile)
      = [chars "HOST=\"a\nb $\x7bWORKERS\x7d\"", chars "PORT=$WORKERS", chars "PORT=82"] := by
    decide +kernel
  -- the port is read where the host has been set
  have hsecond : (fourWorkers.loadLines [chars "HOST=\"a\nb $\x7bWORKERS\x7d\""]).map
      (fun left => Entry.read left.substitute (chars "PORT=$WORKERS"))
        = .ok (.entry "PORT" (chars "4")) := by decide +kernel
  obtain ⟨left, hleft, hport⟩ := map_eq_ok_iff.mp hsecond
  have hhost : Origin fourWorkers quotedHostFile "HOST" (some (Utf8.encode (chars "a\nb 4"))) :=
    @Origin.file _ _ _ [] _ _ _ _ rfl hlines (by simp) rfl (by decide +kernel)
  have hport : Origin fourWorkers quotedHostFile "PORT" (some (Utf8.encode (chars "4"))) :=
    @Origin.file _ _ _ [_] _ _ _ _ rfl hlines (by decide) hleft hport
  have hworkers : Origin fourWorkers quotedHostFile "WORKERS" (some (Utf8.encode (chars "4"))) :=
    .process rfl
  have hmax : Origin fourWorkers quotedHostFile "MAX_CONNECTIONS" none :=
    .unset rfl (by rw [hlines]; decide)
  obtain ⟨loaded, hload, horigin, hview, -⟩ :=
    settings_come_from_first_definition _ _ hfile htext
  refine ⟨hfile, htext, loaded, hload, ?_, ?_, ?_, ?_, ?_⟩
  · exact (horigin _ (by simp [Settings.names]) _).mpr hhost
  · exact (horigin _ (by simp [Settings.names]) _).mpr hport
  · exact (horigin _ (by simp [Settings.names]) _).mpr hworkers
  · exact (horigin _ (by simp [Settings.names]) _).mpr hmax
  · have hread := hview ⟨[⟨"HOST", Utf8.encode (chars "a\nb 4"), by decide⟩,
      ⟨"PORT", Utf8.encode (chars "4"), by decide⟩,
      ⟨"WORKERS", Utf8.encode (chars "4"), by decide⟩]⟩ (by
        simp only [Settings.names, List.forall_mem_cons]
        exact ⟨hhost, hport, hworkers, hmax, by simp⟩)
    exact hread.trans (by decide +kernel)

end Environment

namespace Launch

/-- The run fails because of a setting, and the failure is the first in order. -/
def ReportsSetting (loaded : Environment) (calls : List Call) (run : Run) : Prop :=
  ∃ key ∈ Settings.names, ∃ value,
    Settings.FirstUnreadable loaded Settings.forms (.invalidSetting key value) ∧
    run.Seen 1 false ["Error: " ++ (Failure.invalidSetting key value).display] []
      (calls.map fun _ => none)

section

variable {env loaded : Environment} {file : List UInt8} {name : String}

theorem reportsSetting_of_isMalformed (machine : Machine) (hload : env.load file = .ok loaded)
    (hname : name ∈ Settings.names) (hbad : loaded.IsMalformed name) (calls : List Call)
    (stopped : Bool) : ReportsSetting loaded calls (run machine env file calls stopped) := by
  obtain ⟨key, hkey, value, hread⟩ := Settings.exists_read_eq_error hname hbad
  refine ⟨key, hkey, value, Settings.read_eq_error_iff.mp hread, ?_⟩
  rw [run_of_read_error hload hread]
  exact ⟨rfl, rfl, errors_failed _, rfl, rfl⟩

/-- **A setting that is not text stands, and is reported, unless the file defines it.** For every
environment in which some setting is not text, and every file without a NUL: all such settings keep
their values, and the run fails because of the first setting that cannot be read, if and only if no
line before the first malformed one defines any of them. One that no line defines is enough for the
report. But the first line that defines one puts its own value in place of it. -/
theorem malformed_setting_reported_unless_defined (machine : Machine) (env : Environment)
    (file : List UInt8) (hfile : 0 ∉ file) (hbad : ∃ name ∈ Settings.names, env.IsMalformed name)
    (calls : List Call) (stopped : Bool) :
    ∃ loaded, env.load file = .ok loaded ∧
      ((∀ name ∈ Settings.names, env.IsMalformed name → loaded.get? name = env.get? name) ∧
          ReportsSetting loaded calls (run machine env file calls stopped) ↔
        ∀ name ∈ Settings.names, env.IsMalformed name →
          ∀ line ∈ intact (logicalLines file), ¬ Defines line name) ∧
      (∀ name ∈ Settings.names, env.IsMalformed name →
        (∀ line ∈ intact (logicalLines file), ¬ Defines line name) →
        ReportsSetting loaded calls (run machine env file calls stopped)) ∧
      ∀ name ∈ Settings.names, env.IsMalformed name → ∀ before line after left value,
        intact (logicalLines file) = before ++ line :: after →
        (∀ l ∈ before, ¬ Defines l name) → env.loadLines before = .ok left →
        Entry.read left.substitute line = .entry name value →
        loaded.get? name = some (Utf8.encode value) := by
  obtain ⟨loaded, hload⟩ := env.exists_load hfile
  have hkept : ∀ name, (∀ line ∈ intact (logicalLines file), ¬ Defines line name) →
      loaded.get? name = env.get? name :=
    fun name hlines => Environment.get?_loadLines_of_kept hload (.inr hlines)
  have hreport : ∀ name ∈ Settings.names, env.IsMalformed name →
      (∀ line ∈ intact (logicalLines file), ¬ Defines line name) →
      ReportsSetting loaded calls (run machine env file calls stopped) := by
    intro name hname hmalformed hlines
    refine reportsSetting_of_isMalformed machine hload hname ?_ calls stopped
    rwa [Environment.IsMalformed, hkept name hlines]
  refine ⟨loaded, hload, ⟨?_, ?_⟩, hreport, ?_⟩
  · rintro ⟨hstands, -⟩ name hname hmalformed line hline hdefines
    -- what a line defines is a text, and this is none
    have htext := Environment.isSome_text?_of_defines hload ⟨line, hline, hdefines⟩
    rw [Environment.text?, hstands name hname hmalformed, ← Environment.text?,
      hmalformed.text?_eq_none] at htext
    cases htext
  · intro hundefined
    obtain ⟨name, hname, hmalformed⟩ := hbad
    exact ⟨fun name hname hmalformed => hkept name (hundefined name hname hmalformed),
      hreport name hname hmalformed (hundefined name hname hmalformed)⟩
  · intro name hname hmalformed before line after left value hlines hbefore hleft hread
    exact Environment.get?_loadLines_of_first hload hmalformed.text?_eq_none hlines hbefore hleft
      hread

end

/-- The number of workers is not text, and the file does not define it. -/
theorem malformed_workers_reported :
    0 ∉ Utf8.encode (chars "PORT=81\n") ∧
    (∃ name ∈ Settings.names,
      (⟨[⟨"WORKERS", [0x38, 0xFF], by decide⟩]⟩ : Environment).IsMalformed name) ∧
    ∃ loaded, ReportsSetting loaded [⟨"GET", "/"⟩]
      (run ⟨fun _ _ => none, true⟩ ⟨[⟨"WORKERS", [0x38, 0xFF], by decide⟩]⟩
        (Utf8.encode (chars "PORT=81\n")) [⟨"GET", "/"⟩] true) := by
  have hfile : 0 ∉ Utf8.encode (chars "PORT=81\n") := by decide
  have hname : "WORKERS" ∈ Settings.names := by decide
  have hmalformed :
      (⟨[⟨"WORKERS", [0x38, 0xFF], by decide⟩]⟩ : Environment).IsMalformed "WORKERS" :=
    ⟨[0x38, 0xFF], rfl, Utf8.ne_encode (by decide +kernel)⟩
  have hlines : intact (logicalLines (Utf8.encode (chars "PORT=81\n"))) = [chars "PORT=81"] := by
    decide +kernel
  obtain ⟨loaded, -, -, hreport, -⟩ := malformed_setting_reported_unless_defined
    ⟨fun _ _ => none, true⟩ _ _ hfile ⟨_, hname, hmalformed⟩ [⟨"GET", "/"⟩] true
  exact ⟨hfile, ⟨_, hname, hmalformed⟩, loaded,
    hreport _ hname hmalformed (by rw [hlines]; decide)⟩

/-- A line of the file hides that the number of workers is not text: the run gets as far as counting
the workers that the file asks for, and is broken off then. -/
theorem malformed_workers_masked :
    (⟨[⟨"WORKERS", [0x38, 0xFF], by decide⟩]⟩ : Environment).IsMalformed "WORKERS" ∧
    (run ⟨fun _ _ => none, true⟩ ⟨[⟨"WORKERS", [0x38, 0xFF], by decide⟩]⟩
        (Utf8.encode (chars "WORKERS=0\n")) [] true).ending = .tooFewWorkers ∧
    End.tooFewWorkers.exit? = some 101 :=
  ⟨⟨[0x38, 0xFF], rfl, Utf8.ne_encode (by decide +kernel)⟩, by decide +kernel, rfl⟩

end Launch

end UserDirectory
