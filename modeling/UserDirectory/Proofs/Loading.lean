import Mathlib.Data.List.TakeWhile
import UserDirectory.Proofs.Text.Utf8
import UserDirectory.SettingsFile.Load

/-!
# What a settings file leaves behind

A line is malformed, or defines a name, whatever the names in its value stand for (`read_congr`). So
the lines before the first malformed one (`SettingsFile.intact`) can be told before anything is
loaded, and only they count (`Environment.loadLines_intact`).

Of these lines only the first that defines a name has a say in its value, and none if the process
has set the name to a text:

* `get?_loadLines_of_kept`: a text stays, and so does whatever no line defines
* `get?_loadLines_of_first`: anything else becomes the value of the first line that defines it
* `loadLines_eraseRepeated`: a line that defines a name again might as well not be there

So it can be told beforehand where a variable has its value from: `Origin` tells it of one that is
not set or a text (`get?_eq_iff_origin`), and `Replacement` of one that is no text
(`get?_eq_iff_replacement`).

In bytes: what stands after a malformed line may be anything (`intact_logicalLines_append`).
-/

namespace UserDirectory

namespace SettingsFile

/-! ## Kinds of lines -/

/-- Where a character leads does not depend on what names stand for. -/
theorem map_snd_step (lookup lookup' : List Char → List Char) (mode : Mode) (c : Char) :
    (mode.step lookup c).map Prod.snd = (mode.step lookup' c).map Prod.snd := by
  cases mode with
  | escaped double => simp [Mode.step]
  | _ => grind [Mode.step]

theorem isSome_finish? (lookup lookup' : List Char → List Char) (mode : Mode) :
    (mode.finish? lookup).isSome = (mode.finish? lookup').isSome := by
  cases mode with
  | escaped double => cases double <;> rfl
  | name double seen => cases double <;> rfl
  | _ => rfl

theorem isSome_value? (lookup lookup' : List Char → List Char) (mode : Mode) (s : List Char) :
    (mode.value? lookup s).isSome = (mode.value? lookup' s).isSome := by
  induction s generalizing mode with
  | nil => exact isSome_finish? lookup lookup' mode
  | cons c s ih =>
    have hstep := map_snd_step lookup lookup' mode c
    rw [Mode.value?, Mode.value?]
    cases h : mode.step lookup c with
    | none =>
      rw [h] at hstep
      rw [Option.map_eq_none_iff.mp hstep.symm]
    | some next =>
      rw [h] at hstep
      obtain ⟨next', h', hnext⟩ := Option.map_eq_some_iff.mp hstep.symm
      rw [h']
      simp only [Option.isSome_map, hnext, ih]

/-- The name that an entry gives a value to. -/
def Entry.key? : Entry → Option String
  | .entry key _ => some key
  | _ => none

/-- What kind of line it is does not depend on what names stand for. -/
theorem read_congr (lookup lookup' : List Char → List Char) (line : List Char) :
    (Entry.read lookup line).key? = (Entry.read lookup' line).key? ∧
      (Entry.read lookup line = .malformed ↔ Entry.read lookup' line = .malformed) := by
  simp only [Entry.read]
  split
  · simp
  split
  · simp
  next key s hkey =>
  split
  · simp [Entry.key?]
  have hvalue := isSome_value? lookup lookup' .plain (s.dropWhile isWhiteSpace)
  cases h : Mode.plain.value? lookup (s.dropWhile isWhiteSpace) with
  | none =>
    rw [h] at hvalue
    have h' : Mode.plain.value? lookup' (s.dropWhile isWhiteSpace) = none :=
      Option.not_isSome_iff_eq_none.mp (by simp [← hvalue])
    rw [h']
    simp
  | some value =>
    rw [h] at hvalue
    obtain ⟨value', h'⟩ := Option.isSome_iff_exists.mp hvalue.symm
    rw [h']
    simp [Entry.key?]

/-- The line is malformed. -/
def IsMalformed (line : List Char) : Prop := Entry.read (fun _ => []) line = .malformed

instance (line : List Char) : Decidable (IsMalformed line) :=
  inferInstanceAs (Decidable (_ = _))

/-- The line gives a value to the name. -/
def Defines (line : List Char) (name : String) : Prop :=
  (Entry.read (fun _ => []) line).key? = some name

instance (line : List Char) (name : String) : Decidable (Defines line name) :=
  inferInstanceAs (Decidable (_ = _))

theorem read_eq_malformed_iff {lookup : List Char → List Char} {line : List Char} :
    Entry.read lookup line = .malformed ↔ IsMalformed line :=
  (read_congr lookup _ line).2

theorem defines_iff {lookup : List Char → List Char} {line : List Char} {name : String} :
    Defines line name ↔ ∃ value, Entry.read lookup line = .entry name value := by
  unfold Defines
  rw [← (read_congr lookup _ line).1]
  cases Entry.read lookup line with
  | entry key value => simp [Entry.key?]
  | _ => simp [Entry.key?]

theorem Defines.not_malformed {line : List Char} {name : String} (h : Defines line name) :
    ¬ IsMalformed line := by
  obtain ⟨value, hread⟩ := defines_iff.mp h
  intro hbad
  rw [IsMalformed, hread] at hbad
  cases hbad

/-! ## The lines that count -/

/-- The lines before the first malformed one. -/
def intact (lines : List (List Char)) : List (List Char) :=
  lines.takeWhile fun line => ¬ IsMalformed line

theorem not_malformed_of_mem_intact {lines : List (List Char)} {line : List Char}
    (h : line ∈ intact lines) : ¬ IsMalformed line := by
  simpa using List.mem_takeWhile_imp h

theorem intact_cons_of_malformed {line : List Char} (h : IsMalformed line)
    (lines : List (List Char)) : intact (line :: lines) = [] :=
  List.takeWhile_cons_of_neg (by simpa using h)

theorem intact_cons {line : List Char} (h : ¬ IsMalformed line) (lines : List (List Char)) :
    intact (line :: lines) = line :: intact lines :=
  List.takeWhile_cons_of_pos (by simpa using h)

theorem intact_eq_self {lines : List (List Char)} (h : ∀ line ∈ lines, ¬ IsMalformed line) :
    intact lines = lines :=
  List.takeWhile_eq_self_iff.mpr (by simpa using h)

theorem intact_append_of_malformed {lines : List (List Char)}
    (h : ∃ line ∈ lines, IsMalformed line) (rest : List (List Char)) :
    intact (lines ++ rest) = intact lines := by
  induction lines with
  | nil => simp at h
  | cons line lines ih =>
    by_cases hline : IsMalformed line
    · rw [List.cons_append, intact_cons_of_malformed hline, intact_cons_of_malformed hline]
    · rw [List.cons_append, intact_cons hline, intact_cons hline, ih (by simpa [hline] using h)]

/-! ## Bytes after a malformed line -/

theorem physicalLines_ne_nil {bytes : List UInt8} (h : bytes ≠ []) : physicalLines bytes ≠ [] := by
  obtain ⟨b, bytes, rfl⟩ := List.exists_cons_of_ne_nil h
  rw [physicalLines]
  split
  · simp
  split
  · simp
  · simp

/-- A line feed ends a physical line, whatever follows. -/
theorem physicalLines_append (head rest : List UInt8) :
    physicalLines (head ++ 0x0A :: rest)
      = physicalLines (head ++ [0x0A]) ++ physicalLines rest := by
  induction head with
  | nil => simp [physicalLines]
  | cons b head ih =>
    rw [List.cons_append, List.cons_append, physicalLines, physicalLines, ih]
    split
    · rfl
    · have hne : physicalLines (head ++ [0x0A]) ≠ [] := physicalLines_ne_nil (by simp)
      obtain ⟨line, lines, hlines⟩ := List.exists_cons_of_ne_nil hne
      rw [hlines]
      rfl

/-- The logical lines of the first part of a file are logical lines of the whole. -/
theorem logicalLinesFrom_prefix (part : List Char) (state : LineState)
    (lines rest : List (List UInt8)) :
    logicalLinesFrom part state lines <+: logicalLinesFrom part state (lines ++ rest) := by
  induction lines generalizing part state with
  | nil => exact List.nil_prefix
  | cons bytes lines ih =>
    rw [List.cons_append, logicalLinesFrom, logicalLinesFrom]
    split
    · exact List.prefix_rfl
    split
    · exact List.cons_prefix_cons.mpr ⟨rfl, ih _ _⟩
    split
    · exact List.cons_prefix_cons.mpr ⟨rfl, ih _ _⟩
    · exact List.cons_prefix_cons.mpr ⟨rfl, ih _ _⟩
    · exact ih _ _

/-- Nothing is read after a line that is not text. -/
theorem logicalLinesFrom_append {lines : List (List UInt8)}
    (h : ∃ bytes ∈ lines, Utf8.decode? bytes = none) (part : List Char) (state : LineState)
    (rest : List (List UInt8)) :
    logicalLinesFrom part state (lines ++ rest) = logicalLinesFrom part state lines := by
  induction lines generalizing part state with
  | nil => simp at h
  | cons bytes lines ih =>
    rw [List.cons_append, logicalLinesFrom, logicalLinesFrom]
    split
    · rfl
    · next text htext =>
      have hlater : ∃ bytes ∈ lines, Utf8.decode? bytes = none := by simpa [htext] using h
      split
      · rw [ih hlater]
      split
      · rw [ih hlater]
      · rw [ih hlater]
      · rw [ih hlater]

/-- Whether a file begins with a mark shows in its first line. -/
theorem exists_dropMark_append (head : List UInt8) :
    ∃ head', ∀ rest, dropMark (head ++ 0x0A :: rest) = head' ++ 0x0A :: rest := by
  match head with
  | [] => exact ⟨[], fun _ => rfl⟩
  | [a] => exact ⟨[a], fun _ => by unfold dropMark; split <;> simp_all⟩
  | [a, b] => exact ⟨[a, b], fun _ => by unfold dropMark; split <;> simp_all⟩
  | a :: b :: c :: head =>
    by_cases h : a = 0xEF ∧ b = 0xBB ∧ c = 0xBF
    · obtain ⟨rfl, rfl, rfl⟩ := h
      exact ⟨head, fun _ => rfl⟩
    · exact ⟨a :: b :: c :: head, fun _ => by unfold dropMark; split <;> simp_all⟩

/-- The file has a malformed line: a physical one that is not text, or a logical one that is
malformed. -/
def HasMalformed (file : List UInt8) : Prop :=
  (∃ bytes ∈ physicalLines (dropMark file), Utf8.decode? bytes = none) ∨
    ∃ line ∈ logicalLines file, IsMalformed line

/-- What stands after a malformed line does not count. -/
theorem intact_logicalLines_append {head : List UInt8} (h : HasMalformed (head ++ [0x0A]))
    (rest : List UInt8) :
    intact (logicalLines (head ++ 0x0A :: rest)) = intact (logicalLines (head ++ [0x0A])) := by
  obtain ⟨head', hmark⟩ := exists_dropMark_append head
  unfold HasMalformed at h
  unfold logicalLines at h ⊢
  rw [hmark] at h ⊢
  rw [hmark, physicalLines_append]
  rcases h with hbytes | hline
  · rw [logicalLinesFrom_append hbytes]
  · obtain ⟨later, hlater⟩ := logicalLinesFrom_prefix [] .complete
      (physicalLines (head' ++ [0x0A])) (physicalLines rest)
    rw [← hlater, intact_append_of_malformed hline]

end SettingsFile

open SettingsFile

namespace Environment

variable {env loaded : Environment} {lines : List (List Char)} {name : String}

/-! ## Loading lines -/

theorem get?_setDefault {key : String} {value : List Char} {env' : Environment}
    (h : env.setDefault key value = .ok env') (name : String) :
    env'.get? name
      = if key = name ∧ env.text? name = none then some (Utf8.encode value) else env.get? name := by
  unfold setDefault at h
  split at h
  · next hset =>
    obtain rfl := Except.ok.inj h
    rw [if_neg]
    rintro ⟨rfl, hnone⟩
    rw [hnone] at hset
    cases hset
  split at h
  · cases h
  · next hunset _ =>
    obtain rfl := Except.ok.inj h
    rw [get?_set]
    by_cases hkey : key = name
    · subst hkey
      rw [if_pos rfl, if_pos ⟨rfl, by simpa using hunset⟩]
    · rw [if_neg hkey, if_neg fun h => hkey h.1]

/-- Everything from the first malformed line on has no effect. -/
theorem loadLines_intact (env : Environment) (lines : List (List Char)) :
    env.loadLines (intact lines) = env.loadLines lines := by
  induction lines generalizing env with
  | nil => rfl
  | cons line lines ih =>
    by_cases hbad : IsMalformed line
    · rw [intact_cons_of_malformed hbad, loadLines, loadLines, read_eq_malformed_iff.mpr hbad]
    · rw [intact_cons hbad, loadLines, loadLines]
      split
      · rfl
      · exact ih env
      · split
        · rfl
        · exact ih _

/-- What lines leave that are not malformed is passed on to the lines after them. -/
theorem loadLines_append (env : Environment) {before : List (List Char)}
    (h : ∀ line ∈ before, ¬ IsMalformed line) (after : List (List Char)) :
    env.loadLines (before ++ after) = env.loadLines before >>= (·.loadLines after) := by
  induction before generalizing env with
  | nil => rfl
  | cons line before ih =>
    obtain ⟨hline, hbefore⟩ := List.forall_mem_cons.mp h
    rw [List.cons_append, loadLines, loadLines]
    split
    · next hread => exact absurd (read_eq_malformed_iff.mp hread) hline
    · exact ih env hbefore
    · split
      · rfl
      · exact ih _ hbefore

/-- A variable keeps its value if it is set to a text, or if no line defines it. -/
theorem get?_loadLines_of_kept (hload : env.loadLines lines = .ok loaded)
    (hkept : (env.text? name).isSome ∨ ∀ line ∈ intact lines, ¬ Defines line name) :
    loaded.get? name = env.get? name := by
  induction lines generalizing env with
  | nil => rw [Except.ok.inj hload]
  | cons line lines ih =>
    rw [loadLines] at hload
    split at hload
    · rw [Except.ok.inj hload]
    · next hread =>
      have hgood : ¬ IsMalformed line := by
        rw [← read_eq_malformed_iff, hread]
        simp
      rw [intact_cons hgood, List.forall_mem_cons] at hkept
      exact ih hload (hkept.imp_right And.right)
    · next key value hread =>
      have hdefines : Defines line key := defines_iff.mpr ⟨value, hread⟩
      rw [intact_cons hdefines.not_malformed, List.forall_mem_cons] at hkept
      split at hload
      · cases hload
      · next env' hset =>
        have hsame : env'.get? name = env.get? name := by
          rw [get?_setDefault hset name, if_neg]
          rintro ⟨rfl, hnone⟩
          rcases hkept with htext | hnot
          · rw [hnone] at htext
            cases htext
          · exact hnot.1 hdefines
        have htext : env'.text? name = env.text? name := by rw [text?, text?, hsame]
        rw [← hsame]
        exact ih hload (by rw [htext]; exact hkept.imp_right And.right)

/-- A variable that is set to no text gets the value of the first line that defines it, as that line
is read in the environment that the lines before it leave. -/
theorem get?_loadLines_of_first {before after : List (List Char)} {line value : List Char}
    {left : Environment} (hload : env.loadLines lines = .ok loaded) (hnone : env.text? name = none)
    (hlines : intact lines = before ++ line :: after)
    (hbefore : ∀ l ∈ before, ¬ Defines l name) (hleft : env.loadLines before = .ok left)
    (hread : Entry.read left.substitute line = .entry name value) :
    loaded.get? name = some (Utf8.encode value) := by
  have hgood : ∀ l ∈ before, ¬ IsMalformed l := fun l hl =>
    not_malformed_of_mem_intact (by rw [hlines]; exact List.mem_append_left _ hl)
  have hkept : left.get? name = env.get? name :=
    get?_loadLines_of_kept hleft (.inr (by rwa [intact_eq_self hgood]))
  have hleftNone : left.text? name = none := by rw [text?, hkept, ← text?, hnone]
  rw [← loadLines_intact, hlines, loadLines_append env hgood, hleft] at hload
  replace hload : left.loadLines (line :: after) = .ok loaded := hload
  rw [loadLines, hread] at hload
  simp only at hload
  split at hload
  · cases hload
  · next set hset =>
    have hget : set.get? name = some (Utf8.encode value) := by
      rw [get?_setDefault hset, if_pos ⟨rfl, hleftNone⟩]
    -- from now on it is a text, which no later line can change
    have htext : set.text? name = some value := by
      rw [text?, hget]
      exact Utf8.decode?_eq_some_iff.mpr rfl
    rw [get?_loadLines_of_kept hload (.inl (by rw [htext]; rfl)), hget]

/-- If some line defines a name, there is a first one. -/
theorem exists_first (hload : env.loadLines lines = .ok loaded)
    (h : ∃ line ∈ intact lines, Defines line name) :
    ∃ before line after left value, intact lines = before ++ line :: after ∧
      (∀ l ∈ before, ¬ Defines l name) ∧ env.loadLines before = .ok left ∧
      Entry.read left.substitute line = .entry name value := by
  obtain ⟨line, hfirst⟩ := Option.isSome_iff_exists.mp
    (List.find?_isSome (p := fun l => decide (Defines l name)).mpr (by simpa using h))
  obtain ⟨hdefines, before, after, hlines, hbefore⟩ := List.find?_eq_some_iff_append.mp hfirst
  have hgood : ∀ l ∈ before, ¬ IsMalformed l := fun l hl =>
    not_malformed_of_mem_intact (by rw [hlines]; exact List.mem_append_left _ hl)
  rw [← loadLines_intact, hlines, loadLines_append env hgood] at hload
  cases hleft : env.loadLines before with
  | error cause =>
    rw [hleft] at hload
    cases hload
  | ok left =>
    obtain ⟨value, hread⟩ := defines_iff.mp (of_decide_eq_true hdefines)
    exact ⟨before, line, after, left, value, hlines, by simpa using hbefore, hleft, hread⟩

/-- What a line has defined is set to a text. -/
theorem isSome_text?_of_defines (hload : env.loadLines lines = .ok loaded)
    (h : ∃ line ∈ intact lines, Defines line name) : (loaded.text? name).isSome := by
  cases htext : env.text? name with
  | some text =>
    have hkept : loaded.get? name = env.get? name :=
      get?_loadLines_of_kept hload (.inl (by rw [htext]; rfl))
    rw [text?, hkept, ← text?, htext]
    rfl
  | none =>
    obtain ⟨before, line, after, left, value, hlines, hbefore, hleft, hread⟩ := exists_first hload h
    rw [text?, get?_loadLines_of_first hload htext hlines hbefore hleft hread, Option.bind_some,
      Utf8.decode?_eq_some_iff.mpr rfl]
    rfl

/-- A line that defines a name again changes nothing. -/
theorem loadLines_eraseRepeated (env : Environment) {before after : List (List Char)}
    {line : List Char} (hbefore : ∃ l ∈ before, Defines l name) (hline : Defines line name) :
    env.loadLines (before ++ line :: after) = env.loadLines (before ++ after) := by
  by_cases hgood : ∀ l ∈ before, ¬ IsMalformed l
  · rw [loadLines_append env hgood, loadLines_append env hgood]
    cases hleft : env.loadLines before with
    | error cause => rfl
    | ok left =>
      have hset : (left.text? name).isSome :=
        isSome_text?_of_defines hleft (by rwa [intact_eq_self hgood])
      obtain ⟨value, hread⟩ := defines_iff.mp hline
      show left.loadLines (line :: after) = left.loadLines after
      rw [loadLines, hread]
      simp only [setDefault, if_pos hset]
  · have hbad : ∃ l ∈ before, IsMalformed l := by simpa using hgood
    rw [← loadLines_intact, ← loadLines_intact env (before ++ after),
      intact_append_of_malformed hbad, intact_append_of_malformed hbad]

/-! ## Where values come from -/

/-- The variable is set to something that is not text. -/
def IsMalformed (env : Environment) (name : String) : Prop :=
  ∃ bytes, env.get? name = some bytes ∧ ∀ text, bytes ≠ Utf8.encode text

theorem IsMalformed.text?_eq_none {env : Environment} {name : String}
    (h : env.IsMalformed name) : env.text? name = none := by
  obtain ⟨bytes, hset, hbad⟩ := h
  rw [text?, hset, Option.bind_some]
  exact Utf8.decode?_eq_none_iff.mpr hbad

/-- Where a variable that the process has not set, or set to a text, has its value from once the
file has been loaded. -/
inductive Origin (env : Environment) (file : List UInt8) (name : String) :
    Option (List UInt8) → Prop where
  /-- From the process. -/
  | process {bytes : List UInt8} : env.get? name = some bytes → Origin env file name (some bytes)
  /-- From the first line that defines it, of those before the first malformed one. The line is read
  in the environment that the lines before it leave. -/
  | file {before after : List (List Char)} {line value : List Char} {left : Environment} :
      env.get? name = none → intact (logicalLines file) = before ++ line :: after →
      (∀ l ∈ before, ¬ Defines l name) → env.loadLines before = .ok left →
      Entry.read left.substitute line = .entry name value →
      Origin env file name (some (Utf8.encode value))
  /-- From nowhere. -/
  | unset : env.get? name = none →
      (∀ line ∈ intact (logicalLines file), ¬ Defines line name) → Origin env file name none

/-- Where a variable that the process has set to no text has its value from once the file has been
loaded. -/
inductive Replacement (env : Environment) (file : List UInt8) (name : String) :
    Option (List UInt8) → Prop where
  /-- From the process, if no line defines it that counts. -/
  | process : (∀ line ∈ intact (logicalLines file), ¬ Defines line name) →
      Replacement env file name (env.get? name)
  /-- From the first line that defines it, as for a variable that is not set. -/
  | file {before after : List (List Char)} {line value : List Char} {left : Environment} :
      intact (logicalLines file) = before ++ line :: after → (∀ l ∈ before, ¬ Defines l name) →
      env.loadLines before = .ok left → Entry.read left.substitute line = .entry name value →
      Replacement env file name (some (Utf8.encode value))

section

variable {file : List UInt8} {value : Option (List UInt8)}

theorem get?_eq_iff_replacement (hload : env.load file = .ok loaded)
    (hname : env.text? name = none) :
    loaded.get? name = value ↔ Replacement env file name value := by
  constructor
  · rintro rfl
    by_cases hdefined : ∃ line ∈ intact (logicalLines file), Defines line name
    · obtain ⟨before, line, after, left, value, hlines, hbefore, hleft, hread⟩ :=
        exists_first hload hdefined
      rw [get?_loadLines_of_first hload hname hlines hbefore hleft hread]
      exact .file hlines hbefore hleft hread
    · have hlines : ∀ line ∈ intact (logicalLines file), ¬ Defines line name := by
        simpa using hdefined
      rw [get?_loadLines_of_kept hload (.inr hlines)]
      exact .process hlines
  · intro hvalue
    cases hvalue with
    | process hlines => exact get?_loadLines_of_kept hload (.inr hlines)
    | file hlines hbefore hleft hread =>
      exact get?_loadLines_of_first hload hname hlines hbefore hleft hread

theorem origin_iff_of_text {text : List Char} (hname : env.get? name = some (Utf8.encode text)) :
    Origin env file name value ↔ env.get? name = value := by
  constructor
  · intro horigin
    cases horigin with
    | process hset => exact hset
    | file hnone => rw [hname] at hnone; cases hnone
    | unset hnone => exact hnone
  · rintro rfl
    rw [hname]
    exact .process hname

/-- A variable that is not set is replaced like one that is not text. -/
theorem origin_iff_replacement (hname : env.get? name = none) :
    Origin env file name value ↔ Replacement env file name value := by
  constructor
  · intro horigin
    cases horigin with
    | process hset => rw [hname] at hset; cases hset
    | file _ hlines hbefore hleft hread => exact .file hlines hbefore hleft hread
    | unset _ hlines =>
      rw [← hname]
      exact .process hlines
  · intro hvalue
    cases hvalue with
    | process hlines =>
      rw [hname]
      exact .unset hname hlines
    | file hlines hbefore hleft hread => exact .file hname hlines hbefore hleft hread

theorem get?_eq_iff_origin (hload : env.load file = .ok loaded)
    (hname : env.get? name = none ∨ ∃ text, env.get? name = some (Utf8.encode text)) :
    loaded.get? name = value ↔ Origin env file name value := by
  rcases hname with hnone | ⟨text, hset⟩
  · have htext : env.text? name = none := by
      rw [text?, hnone]
      rfl
    rw [get?_eq_iff_replacement hload htext, origin_iff_replacement hnone]
  · have htext : (env.text? name).isSome := by
      rw [text?, hset, Option.bind_some, Utf8.decode?_eq_some_iff.mpr rfl]
      rfl
    rw [get?_loadLines_of_kept hload (.inl htext), origin_iff_of_text hset]

end

end Environment

end UserDirectory
