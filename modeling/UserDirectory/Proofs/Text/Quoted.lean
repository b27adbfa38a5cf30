import Mathlib.Data.List.Chain
import UserDirectory.Proofs.Text.Digits
import UserDirectory.Text.Quoted

/-!
# Quoted text is unambiguous

A text between quotes says which characters it stands for and where it ends. Beside the writer
stands a reader of one character (`readChar?`), which gives back what was written, whatever follows
(`readChar?_escape`); so two quoted texts at the front of one text are one text
(`quote_append_inj`).

Two facts tell what stands between the quotes: nothing hidden (`hidden_of_mem_quote`), so neither a
control nor a line break, and no quote without a backslash before it (`isChain_escape`).
-/

namespace UserDirectory

/-! ## Hexadecimal numerals -/

namespace Digits

theorem hexValue?_digitChar {n : Nat} (h : n < 16) : hexValue? n.digitChar = some n := by
  have hall : ∀ m ∈ List.range 16, hexValue? m.digitChar = some m := by decide
  exact hall n (List.mem_range.mpr h)

theorem hexNumber?_concat (ds : List Char) (d : Char) :
    hexNumber? (ds ++ [d])
      = (hexNumber? ds).bind fun n => (hexValue? d).map (16 * n + ·) := by
  rw [hexNumber?, List.foldlM_append]
  cases hds : ds.foldlM (fun n c => (hexValue? c).map (16 * n + ·)) 0 with
  | none => simp [hexNumber?, hds]
  | some n => simp [hexNumber?, hds]

/-- A number is read back from its hexadecimal digits. -/
theorem hexNumber?_toDigits (n : Nat) : hexNumber? (Nat.toDigits 16 n) = some n := by
  induction n using Nat.strongRecOn with
  | _ n ih =>
    rw [Nat.toDigits_eq_if (by decide)]
    split
    · next hn =>
      rw [← List.nil_append [n.digitChar], hexNumber?_concat, hexValue?_digitChar hn]
      simp [hexNumber?]
    · rw [hexNumber?_concat, ih (n / 16) (by omega), hexValue?_digitChar (Nat.mod_lt n (by decide))]
      exact congrArg some (Nat.div_add_mod n 16)

theorem exists_digitChar_of_mem_toDigits {n : Nat} {c : Char} (h : c ∈ Nat.toDigits 16 n) :
    ∃ k < 16, c = Nat.digitChar k := by
  induction n using Nat.strongRecOn with
  | _ n ih =>
    rw [Nat.toDigits_eq_if (by decide)] at h
    split at h
    · next hn => exact ⟨n, hn, List.mem_singleton.mp h⟩
    · rcases List.mem_append.mp h with h | h
      · exact ih (n / 16) (by omega) h
      · exact ⟨n % 16, Nat.mod_lt n (by decide), List.mem_singleton.mp h⟩

end Digits

namespace Quoted

/-! ## How a character is written -/

/-- The character that a letter after a backslash stands for. -/
def short? (c : Char) : Option Char :=
  if c = '0' then some '\x00'
  else if c = 't' then some '\t'
  else if c = 'r' then some '\r'
  else if c = 'n' then some '\n'
  else if c = '"' ∨ c = '\\' then some c
  else none

/-- The three ways in which a character is written. -/
inductive Writes (c : Char) : List Char → Prop where
  | short {letter : Char} : short? letter = some c → Writes c ['\\', letter]
  | code : Writes c ('\\' :: 'u' :: '{' :: (Nat.toDigits 16 c.toNat ++ ['}']))
  | plain : c ≠ '"' → c ≠ '\\' → hidden c = false → Writes c [c]

theorem writes_escape (c : Char) : Writes c (escape c) := by
  unfold escape
  iterate 4
    split
    · next h =>
      subst h
      exact .short (by decide)
  split
  · next h =>
    subst h
    exact .short (by decide)
  · next hquote =>
    split
    · next h =>
      subst h
      exact .short (by decide)
    · next hbackslash =>
      split
      · exact .code
      · next hvisible => exact .plain hquote hbackslash (by simpa using hvisible)

/-- The letters of the short forms. -/
def shortLetters : List Char := ['0', 't', 'r', 'n', '"', '\\']

/-- The characters that codes are written with. -/
def codeAlphabet : List Char := ['\\', 'u', '{', '}'] ++ (List.range 16).map Nat.digitChar

theorem mem_shortLetters {letter c : Char} (h : short? letter = some c) :
    letter ∈ shortLetters := by
  unfold short? at h
  unfold shortLetters
  grind

theorem digitChar_mem_codeAlphabet {n : Nat} {c : Char} (h : c ∈ Nat.toDigits 16 n) :
    c ∈ codeAlphabet := by
  obtain ⟨k, hk, rfl⟩ := Digits.exists_digitChar_of_mem_toDigits h
  exact List.mem_append_right _ (List.mem_map_of_mem (List.mem_range.mpr hk))

theorem mem_codeAlphabet {n : Nat} {c : Char}
    (h : c ∈ '\\' :: 'u' :: '{' :: (Nat.toDigits 16 n ++ ['}'])) : c ∈ codeAlphabet := by
  simp only [List.mem_cons, List.mem_append, List.not_mem_nil, or_false] at h
  rcases h with rfl | rfl | rfl | h | rfl
  · decide
  · decide
  · decide
  · exact digitChar_mem_codeAlphabet h
  · decide

/-! ## Reading -/

/-- Reads an escape after its backslash. -/
def readEscape? : List Char → Option (Char × List Char)
  | 'u' :: '{' :: s =>
    (Digits.hexNumber? (s.takeWhile (· ≠ '}'))).map fun n =>
      (Char.ofNat n, (s.dropWhile (· ≠ '}')).drop 1)
  | letter :: s => (short? letter).map (·, s)
  | [] => none

/-- Reads a character between quotes, or nothing at the closing quote. -/
def readChar? : List Char → Option (Option Char × List Char)
  | [] => none
  | c :: s =>
    if c = '"' then some (none, s)
    else if c = '\\' then (readEscape? s).map fun (d, s) => (some d, s)
    else some (some c, s)

theorem readEscape?_code (c : Char) (r : List Char) :
    readEscape? ('u' :: '{' :: (Nat.toDigits 16 c.toNat ++ '}' :: r)) = some (c, r) := by
  have hdigits : ∀ d ∈ Nat.toDigits 16 c.toNat, decide (d ≠ '}') = true := by
    intro d hd
    obtain ⟨k, hk, rfl⟩ := Digits.exists_digitChar_of_mem_toDigits hd
    have hall : ∀ k ∈ List.range 16, decide (k.digitChar ≠ '}') = true := by decide
    exact hall k (List.mem_range.mpr hk)
  rw [readEscape?, List.takeWhile_append_of_pos hdigits, List.dropWhile_append_of_pos hdigits,
    List.takeWhile_cons_of_neg (by decide), List.dropWhile_cons_of_neg (by decide),
    List.append_nil, Digits.hexNumber?_toDigits, Option.map_some, Char.ofNat_toNat]
  rfl

/-- **A written character is read back**, whatever follows it. -/
theorem readChar?_escape (c : Char) (r : List Char) :
    readChar? (escape c ++ r) = some (some c, r) := by
  have h := writes_escape c
  generalize escape c = s at h ⊢
  cases h with
  | @short letter hletter =>
    have hread : readEscape? (letter :: r) = some (c, r) := by
      rw [readEscape?, hletter]
      · rfl
      · rintro s rfl
        cases hletter
    show (readEscape? (letter :: r)).map _ = _
    rw [hread]
    rfl
  | code =>
    show (readEscape? ('u' :: '{' :: (Nat.toDigits 16 c.toNat ++ ['}'] ++ r))).map _ = _
    rw [List.append_assoc, List.singleton_append, readEscape?_code]
    rfl
  | plain hquote hbackslash _ =>
    rw [List.singleton_append, readChar?, if_neg hquote, if_neg hbackslash]

/-- **What is quoted at the front of a text is told by the text.** -/
theorem quote_append_inj {s t r r' : List Char} (h : quote s ++ r = quote t ++ r') :
    s = t ∧ r = r' := by
  unfold quote at h
  rw [List.cons_append, List.cons_append, List.append_assoc, List.append_assoc,
    List.singleton_append, List.singleton_append] at h
  replace h := (List.cons.inj h).2
  -- what is read first is the first character of either text
  induction s generalizing t with
  | nil =>
    cases t with
    | nil => exact ⟨rfl, (List.cons.inj h).2⟩
    | cons d t =>
      have hread := readChar?_escape d (t.flatMap escape ++ '"' :: r')
      rw [← List.append_assoc, ← List.flatMap_cons, ← h] at hread
      cases hread
  | cons c s ih =>
    have hread := readChar?_escape c (s.flatMap escape ++ '"' :: r)
    rw [← List.append_assoc, ← List.flatMap_cons, h] at hread
    cases t with
    | nil => cases hread
    | cons d t =>
      rw [List.flatMap_cons, List.append_assoc, readChar?_escape, Option.some.injEq,
        Prod.mk.injEq, Option.some.injEq] at hread
      obtain ⟨rfl, hrest⟩ := hread
      obtain ⟨rfl, hr⟩ := ih hrest.symm
      exact ⟨rfl, hr⟩

theorem quote_injective : Function.Injective quote := by
  intro s t h
  exact (quote_append_inj (congrArg (· ++ []) h)).1

theorem ofString_append_inj {s t : String} {r r' : List Char}
    (h : ofString s ++ r = ofString t ++ r') : s = t ∧ r = r' := by
  obtain ⟨hs, hr⟩ := quote_append_inj h
  exact ⟨String.toList_inj.mp hs, hr⟩

theorem ofString_injective : Function.Injective ofString :=
  fun _ _ h => String.toList_inj.mp (quote_injective h)

/-! ## What stands between the quotes -/

theorem hidden_of_all {s : List Char} (h : s.all (fun c => !hidden c) = true) {c : Char}
    (hc : c ∈ s) : hidden c = false := by
  simpa using List.all_eq_true.mp h c hc

theorem hidden_of_mem_escape {c d : Char} (h : d ∈ escape c) : hidden d = false := by
  have hwrites := writes_escape c
  generalize escape c = s at h hwrites
  cases hwrites with
  | @short letter hletter =>
    rcases List.mem_cons.mp h with rfl | h
    · decide
    · obtain rfl := List.mem_singleton.mp h
      exact hidden_of_all (by decide) (mem_shortLetters hletter)
  | code => exact hidden_of_all (by decide) (mem_codeAlphabet h)
  | plain _ _ hvisible =>
    rw [List.mem_singleton.mp h]
    exact hvisible

/-- **Nothing in a quoted text is hidden.** -/
theorem hidden_of_mem_quote {s : List Char} {c : Char} (h : c ∈ quote s) : hidden c = false := by
  have hquote : hidden '"' = false := by decide
  simp only [quote, List.mem_cons, List.mem_append, List.mem_flatMap, List.not_mem_nil,
    or_false] at h
  rcases h with rfl | ⟨d, -, hd⟩ | rfl
  · exact hquote
  · exact hidden_of_mem_escape hd
  · exact hquote

theorem hidden_of_covers {c : Char}
    (h : CharClass.covers CharClass.unprintable.ranges c.toNat = true) : hidden c = true := by
  simp [hidden, CharClass.mem, h]

/-- Controls are hidden. -/
theorem not_control_of_hidden {c : Char} (h : hidden c = false) :
    0x20 ≤ c.toNat ∧ c.toNat ≠ 0x7F := by
  have hlow : ∀ n ∈ List.range 0x20, CharClass.covers CharClass.unprintable.ranges n = true := by
    decide
  have hdelete : CharClass.covers CharClass.unprintable.ranges 0x7F = true := by decide
  constructor
  · refine Nat.not_lt.mp fun hlt => ?_
    rw [hidden_of_covers (hlow c.toNat (List.mem_range.mpr hlt))] at h
    cases h
  · intro heq
    rw [hidden_of_covers (heq ▸ hdelete)] at h
    cases h

/-- Within the quotes a quote stands after a backslash. -/
def Escaped (a b : Char) : Prop := b = '"' → a = '\\'

theorem isChain_escape (c : Char) : (escape c).IsChain Escaped := by
  have h := writes_escape c
  generalize escape c = s at h ⊢
  cases h with
  | short => exact List.isChain_cons_cons.mpr ⟨fun _ => rfl, .singleton _⟩
  | code =>
    -- no quote is needed to write a code
    have hcode : '"' ∉ codeAlphabet := by decide
    refine (List.pairwise_of_forall_mem_list fun a _ b hb hquote => ?_).isChain
    exact absurd (mem_codeAlphabet (hquote ▸ hb)) hcode
  | plain => exact .singleton _

theorem head?_flatMap_escape_ne (s : List Char) : ∀ d ∈ (s.flatMap escape).head?, d ≠ '"' := by
  cases s with
  | nil =>
    intro d hd
    cases hd
  | cons c s =>
    have h := writes_escape c
    rw [List.flatMap_cons]
    generalize escape c = t at h
    cases h with
    | short =>
      rintro _ ⟨⟩
      decide
    | code =>
      rintro _ ⟨⟩
      decide
    | plain hquote =>
      rintro _ ⟨⟩
      exact hquote

theorem isChain_flatMap_escape (s : List Char) : (s.flatMap escape).IsChain Escaped := by
  induction s with
  | nil => exact .nil
  | cons c s ih =>
    rw [List.flatMap_cons, List.isChain_append]
    exact ⟨isChain_escape c, ih, fun _ _ d hd hquote =>
      absurd hquote (head?_flatMap_escape_ne s d hd)⟩

end Quoted

end UserDirectory
