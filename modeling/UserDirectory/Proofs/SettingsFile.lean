import UserDirectory.Proofs.Text.Utf8
import UserDirectory.SettingsFile.Load

/-!
# Where the values of a settings file come from

The characters of a value come from its line, from the variables that it names, or they are line
feeds that were written as escapes (`SettingsFile.mem_value_of_read`); and the characters of a line
come from the file. A variable never holds a NUL, so a file without one can always be loaded
(`Environment.exists_load`).
-/

namespace UserDirectory

namespace SettingsFile

/-! ## Lines -/

theorem mem_of_mem_physicalLines {bytes line : List UInt8} (hline : line ∈ physicalLines bytes)
    {b : UInt8} (hb : b ∈ line) : b ∈ bytes := by
  induction bytes generalizing line with
  | nil => cases hline
  | cons a bytes ih =>
    rw [physicalLines] at hline
    split at hline
    · rcases List.mem_cons.mp hline with rfl | hline
      · rw [List.mem_singleton.mp hb]
        exact List.mem_cons_self
      · exact List.mem_cons_of_mem _ (ih hline hb)
    split at hline
    · rw [List.mem_singleton.mp hline, List.mem_singleton] at hb
      rw [hb]
      exact List.mem_cons_self
    · next first lines hlines =>
      rw [hlines] at ih
      rcases List.mem_cons.mp hline with rfl | hline
      · rcases List.mem_cons.mp hb with rfl | hb
        · exact List.mem_cons_self
        · exact List.mem_cons_of_mem _ (ih List.mem_cons_self hb)
      · exact List.mem_cons_of_mem _ (ih (List.mem_cons_of_mem _ hline) hb)

/-- What stands before a comment is a part of the line. -/
theorem mem_of_run_eq_comment {state : LineState} {line kept : List Char}
    (h : state.run line = .comment kept) {c : Char} (hc : c ∈ kept) : c ∈ line := by
  induction line generalizing state kept with
  | nil => cases h
  | cons d line ih =>
    rw [LineState.run] at h
    split at h
    · obtain rfl := LineEnd.comment.inj h
      cases hc
    · split at h
      · next kept' hrun =>
        obtain rfl := LineEnd.comment.inj h
        rcases List.mem_cons.mp hc with rfl | hc
        · exact List.mem_cons_self
        · exact List.mem_cons_of_mem _ (ih hrun hc)
      · cases h

theorem mem_of_mem_trimLineEnd {s : List Char} {c : Char} (hc : c ∈ trimLineEnd s) : c ∈ s := by
  unfold trimLineEnd at hc
  rw [← List.mem_reverse]
  split at hc
  · next r hr =>
    rw [hr]
    exact List.mem_cons_of_mem _ (List.mem_cons_of_mem _ (List.mem_reverse.mp hc))
  · next r _ hr =>
    rw [hr]
    exact List.mem_cons_of_mem _ (List.mem_reverse.mp hc)
  · exact List.mem_reverse.mpr hc

/-- The characters of logical lines come from the physical ones. -/
theorem mem_of_mem_logicalLinesFrom {part : List Char} {state : LineState}
    {lines : List (List UInt8)} {line : List Char}
    (hline : line ∈ logicalLinesFrom part state lines) {c : Char} (hc : c ∈ line) :
    c ∈ part ∨ ∃ bytes ∈ lines, ∃ text, Utf8.decode? bytes = some text ∧ c ∈ text := by
  induction lines generalizing part state with
  | nil => cases hline
  | cons bytes lines ih =>
    rw [logicalLinesFrom] at hline
    split at hline
    · cases hline
    next text htext =>
    have hhere : c ∈ part ++ text →
        c ∈ part ∨ ∃ b ∈ bytes :: lines, ∃ text, Utf8.decode? b = some text ∧ c ∈ text := by
      intro hmem
      rcases List.mem_append.mp hmem with hmem | hmem
      · exact .inl hmem
      · exact .inr ⟨bytes, List.mem_cons_self, text, htext, hmem⟩
    have hlater : ∀ {part' : List Char} {state' : LineState},
        (∀ d ∈ part', d ∈ part ++ text) → line ∈ logicalLinesFrom part' state' lines →
        c ∈ part ∨ ∃ b ∈ bytes :: lines, ∃ text, Utf8.decode? b = some text ∧ c ∈ text := by
      intro part' state' hpart hline
      rcases ih hline with hmem | ⟨b, hb, htext⟩
      · exact hhere (hpart c hmem)
      · exact .inr ⟨b, List.mem_cons_of_mem _ hb, htext⟩
    split at hline
    · rcases List.mem_cons.mp hline with rfl | hline
      · cases hc
      · exact hlater (by simp) hline
    split at hline
    · next kept hrun =>
      rcases List.mem_cons.mp hline with rfl | hline
      · rcases List.mem_append.mp hc with hc | hc
        · exact .inl hc
        · exact hhere (List.mem_append_right _ (mem_of_run_eq_comment hrun hc))
      · exact hlater (by simp) hline
    · rcases List.mem_cons.mp hline with rfl | hline
      · exact hhere (mem_of_mem_trimLineEnd hc)
      · exact hlater (by simp) hline
    · exact hlater (fun _ hd => hd) hline

theorem nul_notMem_of_mem_logicalLines {file : List UInt8} (hfile : 0 ∉ file) {line : List Char}
    (hline : line ∈ logicalLines file) : '\x00' ∉ line := by
  intro hnul
  rcases mem_of_mem_logicalLinesFrom hline hnul with hmem | ⟨bytes, hbytes, text, htext, hmem⟩
  · cases hmem
  · have hzero : 0 ∈ bytes := by
      rw [← Utf8.decode?_eq_some_iff.mp htext]
      exact Utf8.zero_mem_encode_iff.mpr hmem
    have hmark := mem_of_mem_physicalLines hbytes hzero
    unfold dropMark at hmark
    split at hmark
    · exact hfile (by simp [hmark])
    · exact hfile hmark

/-! ## Values -/

/-- The character stands in the text or in what a name stands for, or it is a line feed. -/
def ComesFrom (lookup : List Char → List Char) (s : List Char) (c : Char) : Prop :=
  c ∈ s ∨ c = '\n' ∨ ∃ name, c ∈ lookup name

theorem ComesFrom.mono {lookup : List Char → List Char} {s t : List Char} {c : Char}
    (h : ComesFrom lookup s c) (hst : ∀ d ∈ s, d ∈ t) : ComesFrom lookup t c :=
  h.imp_left (hst c)

theorem eq_of_escaped? {c d : Char} (h : escaped? c = some d) : d = c ∨ d = '\n' := by
  unfold escaped? at h
  split at h
  · exact .inl (Option.some.inj h).symm
  split at h
  · exact .inr (Option.some.inj h).symm
  · cases h

/-- What one character adds to a value: nothing, itself, what it stands for as an escape, or what a
name stands for that it ends. -/
theorem text_of_step {lookup : List Char → List Char} {mode next : Mode} {c : Char}
    {text : List Char} (h : mode.step lookup c = some (text, next)) :
    text = [] ∨ text = [c] ∨ (∃ d, escaped? c = some d ∧ text = [d]) ∨
      ∃ name, text = lookup name ∨ text = lookup name ++ [c] := by
  cases mode with
  | escaped double =>
    obtain ⟨d, hd, heq⟩ := Option.map_eq_some_iff.mp h
    exact .inr (.inr (.inl ⟨d, hd, (Prod.mk.inj heq).1.symm⟩))
  | _ => grind [Mode.step]

/-- What the end of a line adds to a value. -/
theorem text_of_finish? {lookup : List Char → List Char} {mode : Mode} {text : List Char}
    (h : mode.finish? lookup = some text) : text = [] ∨ ∃ name, text = lookup name := by
  unfold Mode.finish? at h
  split at h
  · exact .inl (Option.some.inj h).symm
  · exact .inl (Option.some.inj h).symm
  · exact .inl (Option.some.inj h).symm
  · exact .inl (Option.some.inj h).symm
  · exact .inr ⟨_, (Option.some.inj h).symm⟩
  · cases h

theorem comesFrom_of_step {lookup : List Char → List Char} {mode next : Mode} {c : Char}
    {text : List Char} (h : mode.step lookup c = some (text, next)) {d : Char} (hd : d ∈ text) :
    ComesFrom lookup [c] d := by
  rcases text_of_step h with rfl | rfl | ⟨e, he, rfl⟩ | ⟨name, rfl | rfl⟩
  · cases hd
  · exact .inl hd
  · obtain rfl := List.mem_singleton.mp hd
    rcases eq_of_escaped? he with rfl | rfl
    · exact .inl hd
    · exact .inr (.inl rfl)
  · exact .inr (.inr ⟨name, hd⟩)
  · rcases List.mem_append.mp hd with hd | hd
    · exact .inr (.inr ⟨name, hd⟩)
    · exact .inl hd

theorem comesFrom_of_value? {lookup : List Char → List Char} {mode : Mode} {s value : List Char}
    (h : mode.value? lookup s = some value) {d : Char} (hd : d ∈ value) :
    ComesFrom lookup s d := by
  induction s generalizing mode value with
  | nil =>
    rcases text_of_finish? h with rfl | ⟨name, rfl⟩
    · cases hd
    · exact .inr (.inr ⟨name, hd⟩)
  | cons c s ih =>
    rw [Mode.value?] at h
    split at h
    · cases h
    · next text next hstep =>
      obtain ⟨rest, hrest, rfl⟩ := Option.map_eq_some_iff.mp h
      rcases List.mem_append.mp hd with hd | hd
      · exact (comesFrom_of_step hstep hd).mono (by simp)
      · exact (ih hrest hd).mono fun _ => List.mem_cons_of_mem _

/-! ## Entries -/

theorem mem_of_key? {s key rest : List Char} (h : key? s = some (key, rest)) {c : Char}
    (hc : c ∈ rest) : c ∈ s := by
  unfold key? at h
  split at h
  · cases h
  split at h
  · obtain ⟨-, rfl⟩ := Prod.mk.inj (Option.some.inj h)
    exact ((List.dropWhile_sublist _).trans (List.dropWhile_sublist _)).subset hc
  · cases h

theorem mem_of_keyAndEquals? {s key rest : List Char} (h : keyAndEquals? s = some (key, rest))
    {c : Char} (hc : c ∈ rest) : c ∈ s := by
  unfold keyAndEquals? at h
  split at h
  · cases h
  · next hkey =>
    cases h
    exact mem_of_key? hkey (List.mem_cons_of_mem _ hc)
  · next hkey =>
    split at h
    · split at h
      · next hkey' =>
        cases h
        exact mem_of_key? hkey (mem_of_key? hkey' (List.mem_cons_of_mem _ hc))
      · cases h
    · cases h

/-- **The characters of a value come from its line, from the variables that it names, or are line
feeds.** -/
theorem mem_value_of_read {lookup : List Char → List Char} {line value : List Char} {key : String}
    (h : Entry.read lookup line = .entry key value) {c : Char} (hc : c ∈ value) :
    ComesFrom lookup line c := by
  have htrimmed : ∀ d ∈ (line.reverse.dropWhile isWhiteSpace).reverse.dropWhile isWhiteSpace,
      d ∈ line := by
    intro d hd
    have hd := List.mem_reverse.mp ((List.dropWhile_sublist _).subset hd)
    exact List.mem_reverse.mp ((List.dropWhile_sublist _).subset hd)
  simp only [Entry.read] at h
  split at h
  · cases h
  split at h
  · cases h
  next key' s hkey =>
  split at h
  · cases h
    cases hc
  · split at h
    · next value' hvalue =>
      cases h
      refine (comesFrom_of_value? hvalue hc).mono fun d hd => ?_
      exact htrimmed d (mem_of_keyAndEquals? hkey ((List.dropWhile_sublist _).subset hd))
    · cases h

end SettingsFile

/-! ## Loading -/

namespace Environment

theorem zero_notMem_of_named? {env : Environment} {name : List Char} {bytes : List UInt8}
    (h : env.named? name = some bytes) : 0 ∉ bytes := by
  unfold named? at h
  split at h
  · split at h
    · cases h
    · rw [get?, Option.map_eq_some_iff] at h
      obtain ⟨v, -, rfl⟩ := h
      exact v.zero_notMem
  · obtain ⟨v, -, hv⟩ := List.exists_of_findSome?_eq_some h
    split at hv
    · rw [List.isPrefixOf?_eq_some_iff_append_eq] at hv
      intro hzero
      refine v.zero_notMem ?_
      rw [← hv]
      exact List.mem_append_right _ hzero
    · cases hv

theorem nul_notMem_substitute (env : Environment) (name : List Char) :
    '\x00' ∉ env.substitute name := by
  unfold substitute
  cases hbytes : env.named? name with
  | none => simp
  | some bytes =>
    rw [Option.bind_some]
    cases htext : Utf8.decode? bytes with
    | none => simp
    | some text =>
      rw [Option.getD_some]
      intro hnul
      have hzero : 0 ∈ bytes := by
        rw [← Utf8.decode?_eq_some_iff.mp htext]
        exact Utf8.zero_mem_encode_iff.mpr hnul
      exact zero_notMem_of_named? hbytes hzero

theorem exists_setDefault (env : Environment) (name : String) {value : List Char}
    (hvalue : '\x00' ∉ value) : ∃ env', env.setDefault name value = .ok env' := by
  have hzero : 0 ∉ Utf8.encode value := by rwa [Utf8.zero_mem_encode_iff]
  unfold setDefault
  by_cases hset : (env.text? name).isSome = true
  · exact ⟨env, if_pos hset⟩
  · rw [if_neg hset, dif_neg hzero]
    exact ⟨_, rfl⟩

theorem exists_loadLines (env : Environment) {lines : List (List Char)}
    (hlines : ∀ line ∈ lines, '\x00' ∉ line) : ∃ env', env.loadLines lines = .ok env' := by
  induction lines generalizing env with
  | nil => exact ⟨env, rfl⟩
  | cons line lines ih =>
    obtain ⟨hline, hlines⟩ := List.forall_mem_cons.mp hlines
    rw [loadLines]
    split
    · exact ⟨env, rfl⟩
    · exact ih env hlines
    · next key value hread =>
      have hvalue : '\x00' ∉ value := by
        intro hnul
        rcases SettingsFile.mem_value_of_read hread hnul with hmem | hfeed | ⟨name, hmem⟩
        · exact hline hmem
        · cases hfeed
        · exact nul_notMem_substitute env name hmem
      obtain ⟨env', henv'⟩ := env.exists_setDefault key hvalue
      rw [henv']
      exact ih env' hlines

/-- **A file without a NUL can be loaded.** -/
theorem exists_load (env : Environment) {file : List UInt8} (hfile : 0 ∉ file) :
    ∃ env', env.load file = .ok env' :=
  env.exists_loadLines fun _ => SettingsFile.nul_notMem_of_mem_logicalLines hfile

end Environment

end UserDirectory
