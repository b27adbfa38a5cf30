import UserDirectory.Proofs.OpenQuotes
import UserDirectory.Proofs.SettingsFile

/-!
# Values in quotes

A value that stands in quotes from its first character to its last is read as it stands, if nothing
in it has a meaning there (`Literal`): blanks, line feeds, `#` and the other kind of quotes have
none (`read_quotedLine`). Its line is one whose quotes are closed, so it is a line of the file whatever
line feeds the value holds, and loading the file sets the variable to the value
(`Environment.exists_load_quoted`).
-/

namespace UserDirectory

namespace SettingsFile

/-! ## Keys -/

/-- The text may stand as a key. -/
def IsKey (key : List Char) : Prop :=
  ∃ c s, key = c :: s ∧ beginsKey c = true ∧ ∀ d ∈ key, isKeyChar d = true

theorem plain_of_isKeyChar {c : Char} (h : isKeyChar c = true) : Plain c := by
  constructor <;>
    · rintro rfl
      exact absurd h (by decide)

theorem not_space_of_beginsKey {c : Char} (h : beginsKey c = true) : isWhiteSpace c = false := by
  have hletters : ∀ n ∈ List.range 58,
      CharClass.covers CharClass.whiteSpace.ranges (65 + n) = false := by decide
  have hbetween : 65 ≤ c.toNat → c.toNat ≤ 122 → isWhiteSpace c = false := by
    intro hlow hhigh
    have h := hletters (c.toNat - 65) (List.mem_range.mpr (by omega))
    rwa [show 65 + (c.toNat - 65) = c.toNat by omega] at h
  rw [beginsKey, Bool.or_eq_true_iff] at h
  rcases h with hletter | hunderscore
  · rcases Bool.or_eq_true_iff.mp hletter with hupper | hlower
    · obtain ⟨hlow, hhigh⟩ := of_decide_eq_true hupper
      exact hbetween hlow (Nat.le_trans hhigh (by decide))
    · obtain ⟨hlow, hhigh⟩ := Bool.and_eq_true_iff.mp hlower
      exact hbetween (Nat.le_trans (by decide) (of_decide_eq_true hlow)) (of_decide_eq_true hhigh)
  · obtain rfl := of_decide_eq_true hunderscore
    decide

/-- A key ends at the equals sign. -/
theorem keyAndEquals?_append {key : List Char} (h : IsKey key) (s : List Char) :
    keyAndEquals? (key ++ '=' :: s) = some (key, s) := by
  obtain ⟨c, t, rfl, hc, hkey⟩ := h
  have hstop : isKeyChar '=' = false := by decide
  have htake : ((c :: t) ++ '=' :: s).takeWhile isKeyChar = c :: t := by
    rw [List.takeWhile_append_of_pos hkey, List.takeWhile_cons_of_neg (by simp [hstop]),
      List.append_nil]
  have hdrop : ((c :: t) ++ '=' :: s).dropWhile isKeyChar = '=' :: s := by
    rw [List.dropWhile_append_of_pos hkey, List.dropWhile_cons_of_neg (by simp [hstop])]
  have hread : key? ((c :: t) ++ '=' :: s) = some (c :: t, '=' :: s) := by
    rw [List.cons_append] at htake hdrop ⊢
    rw [key?, if_pos hc, htake, hdrop, List.dropWhile_cons_of_neg (by decide)]
  rw [keyAndEquals?, hread]
  rfl

/-! ## Values -/

/-- The text stands for itself within the quotes. -/
structure Literal (quote : Char) (value : List Char) : Prop where
  inside : Inside quote value
  quote_notMem : quote ∉ value
  /-- Only double quotes let names and escapes stand for something else. -/
  weak : quote = '"' → '\\' ∉ value ∧ '$' ∉ value

/-- Characters that stand for themselves are taken as they are. -/
theorem value?_append {lookup : List Char → List Char} {mode : Mode} {value : List Char}
    (h : ∀ c ∈ value, mode.step lookup c = some ([c], mode)) (rest : List Char) :
    mode.value? lookup (value ++ rest) = (mode.value? lookup rest).map (value ++ ·) := by
  induction value with
  | nil => simp
  | cons c value ih =>
    obtain ⟨hc, hvalue⟩ := List.forall_mem_cons.mp h
    rw [List.cons_append, Mode.value?, hc]
    simp only [ih hvalue, Option.map_map]
    rfl

theorem Literal.step_weak {value : List Char} (h : Literal '"' value)
    (lookup : List Char → List Char) {c : Char} (hc : c ∈ value) :
    Mode.weak.step lookup c = some ([c], .weak) := by
  obtain ⟨hescape, hname⟩ := h.weak rfl
  rw [Mode.step, if_neg (ne_of_mem_of_not_mem hc hname),
    if_neg (ne_of_mem_of_not_mem hc h.quote_notMem),
    if_neg (ne_of_mem_of_not_mem hc hescape)]

theorem Literal.step_strong {value : List Char} (h : Literal '\x27' value)
    (lookup : List Char → List Char) {c : Char} (hc : c ∈ value) :
    Mode.strong.step lookup c = some ([c], .strong) := by
  rw [Mode.step, if_neg (ne_of_mem_of_not_mem hc h.quote_notMem)]

/-- Quotes are opened, what stands between them is taken, and they are closed. -/
theorem Literal.value?_eq {quote : Char} {value : List Char} (h : Literal quote value)
    (hquote : IsQuote quote) (lookup : List Char → List Char) :
    Mode.plain.value? lookup (quote :: (value ++ [quote])) = some value := by
  rcases hquote with rfl | rfl
  · have hopen : Mode.plain.step lookup '"' = some ([], .weak) := rfl
    have hclose : Mode.weak.value? lookup ['"'] = some [] := rfl
    rw [Mode.value?, hopen]
    simp [value?_append (fun _ => h.step_weak lookup), hclose]
  · have hopen : Mode.plain.step lookup '\x27' = some ([], .strong) := rfl
    have hclose : Mode.strong.value? lookup ['\x27'] = some [] := rfl
    rw [Mode.value?, hopen]
    simp [value?_append (fun _ => h.step_strong lookup), hclose]

/-! ## Lines -/

/-- The line that sets a key to a value in quotes. -/
def quotedLine (key : List Char) (quote : Char) (value : List Char) : List Char :=
  key ++ '=' :: quote :: (value ++ [quote])

/-- A line that begins and ends visibly is not trimmed. -/
theorem trim_eq_self {line s s' : List Char} {c d : Char} (hstart : line = c :: s)
    (hc : isWhiteSpace c = false) (hend : line = s' ++ [d]) (hd : isWhiteSpace d = false) :
    (line.reverse.dropWhile isWhiteSpace).reverse.dropWhile isWhiteSpace = line := by
  have hreverse : line.reverse.dropWhile isWhiteSpace = line.reverse := by
    rw [hend, List.reverse_append, List.reverse_singleton, List.singleton_append,
      List.dropWhile_cons_of_neg (by simp [hd])]
  rw [hreverse, List.reverse_reverse, hstart, List.dropWhile_cons_of_neg (by simp [hc])]

section

variable {key value : List Char} {quote : Char}

/-- A line that sets a key begins visibly, and not as a comment. -/
theorem exists_quotedLine_eq_cons (hkey : IsKey key) (quote : Char) (value : List Char) :
    ∃ c s, quotedLine key quote value = c :: s ∧ isWhiteSpace c = false ∧ c ≠ '#' := by
  obtain ⟨c, s, rfl, hc, -⟩ := hkey
  refine ⟨c, _, rfl, not_space_of_beginsKey hc, ?_⟩
  rintro rfl
  exact absurd hc (by decide)

/-- **A value in quotes is read as it stands.** -/
theorem read_quotedLine (lookup : List Char → List Char) (hkey : IsKey key)
    (hquote : IsQuote quote) (hvalue : Literal quote value) :
    Entry.read lookup (quotedLine key quote value) = .entry (String.ofList key) value := by
  obtain ⟨c, s, hline, hc, hremark⟩ := exists_quotedLine_eq_cons hkey quote value
  have hend : quotedLine key quote value = (key ++ '=' :: quote :: value) ++ [quote] := by
    simp [quotedLine]
  have htrim : ((quotedLine key quote value).reverse.dropWhile isWhiteSpace).reverse.dropWhile
      isWhiteSpace = quotedLine key quote value :=
    trim_eq_self hline hc hend hquote.visible
  have hvisible : (quote :: (value ++ [quote])).dropWhile isWhiteSpace
      = quote :: (value ++ [quote]) :=
    List.dropWhile_cons_of_neg (by simp [hquote.visible])
  simp only [Entry.read, htrim]
  rw [if_neg (by simp [hline, hremark])]
  simp only [quotedLine, keyAndEquals?_append hkey, hvisible, hvalue.value?_eq hquote]
  rw [if_neg (by simpa using hquote.ne_remark)]

theorem closed_quotedLine (hkey : IsKey key) (hquote : IsQuote quote)
    (hvalue : Literal quote value) : Closed (quotedLine key quote value) := by
  obtain ⟨-, -, -, -, hchars⟩ := hkey
  have hrest : Closed ('=' :: quote :: (value ++ [quote])) := by
    have hequals : Plain '=' := by constructor <;> decide
    have hvalue : Closed (quote :: (value ++ [quote])) := by
      simpa using Closed.item (.quoted hquote hvalue.inside) .nil
    exact hvalue.char hequals
  unfold quotedLine
  clear * - hchars hrest
  induction key with
  | nil => exact hrest
  | cons c key ih =>
    obtain ⟨hc, hchars⟩ := List.forall_mem_cons.mp hchars
    exact (ih hchars).char (plain_of_isKeyChar hc)

end

theorem Written.append {lines lines' : List (List Char)} {text text' : List Char}
    (h : Written lines text) (h' : Written lines' text') :
    Written (lines ++ lines') (text ++ text') := by
  induction h with
  | nil => exact h'
  | line hline hfront _ ih =>
    rw [List.append_assoc]
    exact .line hline hfront ih
  | remarked hline hlast hvisible hremark _ ih =>
    rw [List.append_assoc]
    exact .remarked hline hlast hvisible hremark ih
  | comment hblanks hfeed hremark _ ih =>
    rw [List.append_assoc]
    exact .comment hblanks hfeed hremark ih

end SettingsFile

open SettingsFile

namespace Environment

/-- **A value in quotes is taken as it stands**, on however many lines of the file it stands: a
variable that is set to no text becomes the value, if no line before defines it or is malformed. -/
theorem exists_load_quoted (env : Environment) {lines : List (List Char)}
    {text key value front : List Char} {quote : Char} {file rest : List UInt8}
    (hlines : Written lines text) (hgood : ∀ line ∈ lines, ¬ SettingsFile.IsMalformed line)
    (hfirst : ∀ line ∈ lines, ¬ Defines line (String.ofList key)) (hkey : IsKey key)
    (hquote : IsQuote quote) (hvalue : Literal quote value) (hfront : IsFront front)
    (hfile : dropMark file
      = Utf8.encode (text ++ (quotedLine key quote value ++ (front ++ ['\n']))) ++ rest)
    (hnul : 0 ∉ file) (hunset : env.text? (String.ofList key) = none) :
    ∃ loaded, env.load file = .ok loaded ∧
      loaded.get? (String.ofList key) = some (Utf8.encode value) := by
  obtain ⟨loaded, hload⟩ := env.exists_load hnul
  have hwritten : Written (lines ++ [quotedLine key quote value])
      (text ++ (quotedLine key quote value ++ (front ++ ['\n']) ++ [])) :=
    hlines.append (.line (closed_quotedLine hkey hquote hvalue) hfront .nil)
  rw [List.append_nil] at hwritten
  have hall := hwritten.logicalLines_eq hfile
  rw [List.append_assoc, List.singleton_append] at hall
  have hread := fun lookup => read_quotedLine lookup hkey hquote hvalue
  have hintact : ∃ after, intact (logicalLines file)
      = lines ++ quotedLine key quote value :: after := by
    have hline : ¬ SettingsFile.IsMalformed (quotedLine key quote value) :=
      (defines_iff.mpr ⟨value, hread (fun _ => [])⟩).not_malformed
    rw [hall, intact, List.takeWhile_append_of_pos (by simpa using hgood),
      List.takeWhile_cons_of_pos (by simpa using hline)]
    exact ⟨_, rfl⟩
  obtain ⟨after, hintact⟩ := hintact
  have hlinesNul : ∀ line ∈ lines, '\x00' ∉ line := fun line hline =>
    nul_notMem_of_mem_logicalLines hnul (by rw [hall]; exact List.mem_append_left _ hline)
  obtain ⟨left, hleft⟩ := env.exists_loadLines hlinesNul
  exact ⟨loaded, hload,
    get?_loadLines_of_first hload hunset hintact hfirst hleft (hread left.substitute)⟩

end Environment

end UserDirectory
