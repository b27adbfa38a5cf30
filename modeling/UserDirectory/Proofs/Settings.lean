import Mathlib.Data.List.Basic
import UserDirectory.Proofs.Except
import UserDirectory.Proofs.Text.Digits
import UserDirectory.Proofs.Text.Subparts
import UserDirectory.Proofs.Text.Utf8
import UserDirectory.Settings

/-!
# Settings read from an environment

What the settings are is told variable by variable (`Given`): the default where the variable is not
set, and else what its text says. They can be read exactly when every variable that is set is
readable (`Readable`); if one is not, the first of those in order is the failure, and what the later
ones hold does not count.

A number is read digit by digit and given up as soon as it gets too great. Since more digits never
make it smaller, this is the same as comparing the whole number in the end
(`foldlM_takeDigit?_eq_some_iff`).

A value that is not text is reported piece by piece: what encodes characters in it as these, and
what lies between as replacement characters.
-/

namespace UserDirectory.Settings

/-! ## Numbers -/

/-- The text is a number up to `greatest`: one plus sign or none, and decimal digits. -/
def IsNumber (greatest : Nat) (text : List Char) (n : Nat) : Prop :=
  ∃ sign digits, text = sign ++ digits ∧ (sign = [] ∨ sign = ['+']) ∧ IsDigits digits ∧
    Digits.value digits = n ∧ n ≤ greatest

theorem takeDigit?_eq_some_iff {greatest n m : Nat} {c : Char} :
    takeDigit? greatest n c = some m ↔
      c.isDigit = true ∧ 10 * n + (c.toNat - '0'.toNat) = m ∧ m ≤ greatest := by
  unfold takeDigit?
  rw [Digits.value_singleton]
  constructor
  · intro h
    split at h
    · next hc =>
      obtain rfl := Option.some.inj h
      exact ⟨hc.1, rfl, hc.2⟩
    · cases h
  · rintro ⟨hdigit, rfl, hle⟩
    exact if_pos ⟨hdigit, hle⟩

/-- Digit by digit a number is read that stays within its bound. -/
theorem foldlM_takeDigit?_eq_some_iff {greatest n m : Nat} (hn : n ≤ greatest)
    {digits : List Char} :
    digits.foldlM (takeDigit? greatest) n = some m ↔
      (∀ c ∈ digits, c.isDigit = true) ∧ Nat.ofDigitChars 10 digits n = m ∧ m ≤ greatest := by
  induction digits generalizing n with
  | nil =>
    rw [List.foldlM_nil, Nat.ofDigitChars_nil]
    constructor
    · intro h
      obtain rfl := Option.some.inj h
      exact ⟨by simp, rfl, hn⟩
    · rintro ⟨-, rfl, -⟩
      rfl
  | cons c digits ih =>
    rw [List.foldlM_cons, Option.bind_eq_bind, Option.bind_eq_some_iff, List.forall_mem_cons,
      Nat.ofDigitChars_cons]
    constructor
    · rintro ⟨k, hk, hrest⟩
      obtain ⟨hc, rfl, hle⟩ := takeDigit?_eq_some_iff.mp hk
      obtain ⟨hdigits, hvalue, hm⟩ := (ih hle).mp hrest
      exact ⟨⟨hc, hdigits⟩, hvalue, hm⟩
    · rintro ⟨⟨hc, hdigits⟩, hvalue, hm⟩
      -- the digits so far denote no more than all of them
      have hle : 10 * n + (c.toNat - '0'.toNat) ≤ greatest := by
        have := Digits.le_ofDigitChars (10 * n + (c.toNat - '0'.toNat)) digits
        omega
      exact ⟨_, takeDigit?_eq_some_iff.mpr ⟨hc, rfl, hle⟩, (ih hle).mpr ⟨hdigits, hvalue, hm⟩⟩

theorem number?_eq_some_iff {greatest n : Nat} {text : List Char} :
    number? greatest text = some n ↔ IsNumber greatest text n := by
  have hread : ∀ digits : List Char,
      (if digits.isEmpty then none else digits.foldlM (takeDigit? greatest) 0) = some n ↔
        IsDigits digits ∧ Digits.value digits = n ∧ n ≤ greatest := by
    intro digits
    cases digits with
    | nil => simp [IsDigits]
    | cons c digits =>
      rw [if_neg (by simp), foldlM_takeDigit?_eq_some_iff (Nat.zero_le _)]
      simp [IsDigits, Digits.value]
  unfold number?
  constructor
  · intro h
    split at h
    · next digits => exact ⟨['+'], digits, rfl, .inr rfl, (hread digits).mp h⟩
    · exact ⟨[], text, rfl, .inl rfl, (hread text).mp h⟩
  · rintro ⟨sign, digits, rfl, rfl | rfl, hdigits⟩
    · obtain ⟨c, s, rfl, hc⟩ := hdigits.1.exists_cons
      split
      · next heq =>
        obtain ⟨rfl, -⟩ := List.cons.inj heq
        cases hc
      · exact (hread _).mpr hdigits
    · exact (hread digits).mpr hdigits

example : number? 65535 (chars "+0065535") = some 65535 := by decide

example : number? 65535 (chars "65536") = none := by decide

/-! ## One setting -/

/-- What a setting is: the default if its variable is not set, or what the variable's text says. -/
inductive Given {α : Type} (env : Environment) (key : String) (default : α)
    (Means : List Char → α → Prop) : α → Prop where
  | unset : env.get? key = none → Given env key default Means default
  | set {text : List Char} {a : α} : env.get? key = some (Utf8.encode text) → Means text a →
      Given env key default Means a

/-- The variable is not set, or it is set to a text of the given form. -/
def Readable (env : Environment) (key : String) (Form : List Char → Prop) : Prop :=
  ∀ bytes, env.get? key = some bytes → ∃ text, bytes = Utf8.encode text ∧ Form text

/-- How a value is shown: as the text that it is, or else leniently. -/
inductive Shown : List UInt8 → String → Prop where
  | text (text : List Char) : Shown (Utf8.encode text) (String.ofList text)
  | lossy {bytes : List UInt8} : (∀ text, bytes ≠ Utf8.encode text) →
      Shown bytes (String.ofList (Utf8.decodeLossy bytes))

theorem shown_iff {bytes : List UInt8} {value : String} :
    Shown bytes value ↔ value = String.ofList (Utf8.decodeLossy bytes) := by
  constructor
  · intro h
    cases h with
    | text text => rw [Utf8.decodeLossy_encode]
    | lossy _ => rfl
  · rintro rfl
    by_cases h : ∃ text, bytes = Utf8.encode text
    · obtain ⟨text, rfl⟩ := h
      rw [Utf8.decodeLossy_encode]
      exact .text text
    · exact .lossy fun text htext => h ⟨text, htext⟩

/-- A reader and what the texts that it accepts say. -/
structure Reads {α : Type} (read : List Char → Option α) (Means : List Char → α → Prop)
    (Form : List Char → Prop) : Prop where
  means : ∀ {text a}, read text = some a ↔ Means text a
  form : ∀ {text}, Form text ↔ ∃ a, Means text a

section Setting

variable {α : Type} {env : Environment} {key : String} {default : α}
  {read : List Char → Option α} {Means : List Char → α → Prop} {Form : List Char → Prop}

theorem decode?_bind_eq_some_iff (h : Reads read Means Form) {bytes : List UInt8} {a : α} :
    (Utf8.decode? bytes).bind read = some a ↔ ∃ text, bytes = Utf8.encode text ∧ Means text a := by
  rw [Option.bind_eq_some_iff]
  constructor
  · rintro ⟨text, htext, hread⟩
    exact ⟨text, (Utf8.decode?_eq_some_iff.mp htext).symm, h.means.mp hread⟩
  · rintro ⟨text, rfl, hmeans⟩
    exact ⟨text, Utf8.decode?_eq_some_iff.mpr rfl, h.means.mpr hmeans⟩

theorem setting_eq_ok_iff (h : Reads read Means Form) {a : α} :
    setting env key default read = .ok a ↔ Given env key default Means a := by
  unfold setting
  constructor
  · intro hok
    split at hok
    · next hunset =>
      obtain rfl := Except.ok.inj hok
      exact .unset hunset
    · next bytes hset =>
      split at hok
      · next hread =>
        obtain rfl := Except.ok.inj hok
        obtain ⟨text, rfl, hmeans⟩ := (decode?_bind_eq_some_iff h).mp hread
        exact .set hset hmeans
      · cases hok
  · intro hgiven
    cases hgiven with
    | unset hunset => rw [hunset]
    | set hset hmeans =>
      have hread := (decode?_bind_eq_some_iff h).mpr ⟨_, rfl, hmeans⟩
      simp only [hset, hread]

theorem Given.readable (h : Reads read Means Form) {a : α}
    (hgiven : Given env key default Means a) : Readable env key Form := by
  intro bytes hbytes
  cases hgiven with
  | unset hunset =>
    rw [hunset] at hbytes
    cases hbytes
  | set hset hmeans =>
    rw [hset] at hbytes
    obtain rfl := Option.some.inj hbytes
    exact ⟨_, rfl, h.form.mpr ⟨a, hmeans⟩⟩

/-- A setting fails when its variable is not readable, with the value of the variable. -/
theorem setting_eq_error_iff (h : Reads read Means Form) {f : Failure} :
    setting env key default read = .error f ↔
      ¬ Readable env key Form ∧ ∃ bytes value, env.get? key = some bytes ∧ Shown bytes value ∧
        f = .invalidSetting key value := by
  constructor
  · intro herror
    have hnot : ∀ a, ¬ Given env key default Means a := by
      intro a hgiven
      rw [(setting_eq_ok_iff h).mpr hgiven] at herror
      cases herror
    unfold setting at herror
    split at herror
    · cases herror
    · next bytes hset =>
      refine ⟨?_, bytes, _, hset, shown_iff.mpr rfl, ?_⟩
      · intro hreadable
        obtain ⟨text, rfl, hform⟩ := hreadable bytes hset
        obtain ⟨a, hmeans⟩ := h.form.mp hform
        exact hnot a (.set hset hmeans)
      · split at herror
        · cases herror
        · exact (Except.error.inj herror).symm
  · rintro ⟨hnot, bytes, value, hset, hshown, rfl⟩
    have hread : (Utf8.decode? bytes).bind read = none := by
      rw [Option.eq_none_iff_forall_ne_some]
      intro a hread
      obtain ⟨text, rfl, hmeans⟩ := (decode?_bind_eq_some_iff h).mp hread
      have hgiven : Given env key default Means a := .set hset hmeans
      exact hnot (hgiven.readable h)
    unfold setting
    simp only [hset, hread, shown_iff.mp hshown]

end Setting

/-! ## Settings in order -/

/-- The failure that the first variable gives which is not readable, of variables with their
forms. -/
inductive FirstUnreadable (env : Environment) :
    List (String × (List Char → Prop)) → Failure → Prop where
  | here {key : String} {Form : List Char → Prop} {rest : List (String × (List Char → Prop))}
      {bytes : List UInt8} {value : String} : ¬ Readable env key Form →
      env.get? key = some bytes → Shown bytes value →
      FirstUnreadable env ((key, Form) :: rest) (.invalidSetting key value)
  | later {key : String} {Form : List Char → Prop} {rest : List (String × (List Char → Prop))}
      {f : Failure} : Readable env key Form → FirstUnreadable env rest f →
      FirstUnreadable env ((key, Form) :: rest) f

theorem FirstUnreadable.exists_mem {env : Environment} {f : Failure}
    {forms : List (String × (List Char → Prop))} (h : FirstUnreadable env forms f) :
    ∃ v ∈ forms, ¬ Readable env v.1 v.2 := by
  induction h with
  | here hnot _ _ => exact ⟨_, List.mem_cons_self, hnot⟩
  | later _ _ ih =>
    obtain ⟨v, hv, hnot⟩ := ih
    exact ⟨v, List.mem_cons_of_mem _ hv, hnot⟩

section Order

variable {α β : Type} {env : Environment} {key : String} {default : α}
  {read : List Char → Option α} {Means : List Char → α → Prop} {Form : List Char → Prop}

theorem setting_bind_eq_ok_iff (h : Reads read Means Form) {next : α → Except Failure β} {b : β} :
    (setting env key default read >>= next) = .ok b ↔
      ∃ a, Given env key default Means a ∧ next a = .ok b := by
  rw [bind_eq_ok_iff]
  exact exists_congr fun a => and_congr_left' (setting_eq_ok_iff h)

/-- A setting fails before those that are read after it. -/
theorem setting_bind_eq_error_iff (h : Reads read Means Form) {next : α → Except Failure β}
    {f : Failure} {rest : List (String × (List Char → Prop))}
    (hnext : ∀ a, next a = .error f ↔ FirstUnreadable env rest f) :
    (setting env key default read >>= next) = .error f ↔
      FirstUnreadable env ((key, Form) :: rest) f := by
  cases hsetting : setting env key default read with
  | error g =>
    obtain ⟨hnot, bytes, value, hset, hshown, rfl⟩ := (setting_eq_error_iff h).mp hsetting
    constructor
    · intro hf
      obtain rfl := Except.error.inj hf
      exact .here hnot hset hshown
    · intro hfirst
      cases hfirst with
      | here _ hset' hshown' =>
        have hf : setting env key default read = .error (.invalidSetting key _) :=
          (setting_eq_error_iff h).mpr ⟨hnot, _, _, hset', hshown', rfl⟩
        rw [hsetting] at hf
        exact congrArg Except.error (Except.error.inj hf)
      | later hreadable _ => exact absurd hreadable hnot
  | ok a =>
    have hreadable := ((setting_eq_ok_iff h).mp hsetting).readable h
    show next a = .error f ↔ _
    rw [hnext]
    constructor
    · intro hfirst
      exact .later hreadable hfirst
    · intro hfirst
      cases hfirst with
      | here hnot _ _ => exact absurd hreadable hnot
      | later _ hfirst => exact hfirst

end Order

/-! ## The four settings -/

theorem reads_host : Reads host? (fun text host => host = String.ofList text) fun _ => True where
  means := by
    intro text a
    rw [host?, Option.some.injEq, eq_comm]
  form := by simp

/-- A number within the bounds of words is read as a word. -/
theorem reads_number {α : Type} {greatest : Nat} {ofNat : Nat → α} {toNat : α → Nat}
    (hofNat : ∀ n ≤ greatest, toNat (ofNat n) = n) (htoNat : ∀ a, ofNat (toNat a) = a) :
    Reads (fun text => (number? greatest text).map ofNat)
      (fun text a => IsNumber greatest text (toNat a))
      fun text => ∃ n, IsNumber greatest text n where
  means := by
    intro text a
    rw [Option.map_eq_some_iff]
    constructor
    · rintro ⟨n, hn, rfl⟩
      rw [number?_eq_some_iff] at hn
      obtain ⟨-, -, -, -, -, -, hle⟩ := id hn
      rwa [hofNat n hle]
    · intro hn
      exact ⟨toNat a, number?_eq_some_iff.mpr hn, htoNat a⟩
  form := by
    intro text
    constructor
    · rintro ⟨n, hn⟩
      obtain ⟨-, -, -, -, -, -, hle⟩ := id hn
      exact ⟨ofNat n, by rwa [hofNat n hle]⟩
    · rintro ⟨a, ha⟩
      exact ⟨toNat a, ha⟩

theorem reads_port :
    Reads port? (fun text port => IsNumber 65535 text port.toNat) fun text =>
      ∃ n, IsNumber 65535 text n :=
  reads_number (fun n hn => by rw [UInt16.toNat_ofNat']; omega) fun _ => UInt16.ofNat_toNat

theorem reads_count :
    Reads count? (fun text count => IsNumber 18446744073709551615 text count.toNat) fun text =>
      ∃ n, IsNumber 18446744073709551615 text n :=
  reads_number (fun n hn => by rw [UInt64.toNat_ofNat']; omega) fun _ => UInt64.ofNat_toNat

/-- The variables of the settings in order, with the forms of their texts. -/
def forms : List (String × (List Char → Prop)) := [
  ("HOST", fun _ => True),
  ("PORT", fun text => ∃ n, IsNumber 65535 text n),
  ("WORKERS", fun text => ∃ n, IsNumber 18446744073709551615 text n),
  ("MAX_CONNECTIONS", fun text => ∃ n, IsNumber 18446744073709551615 text n)]

theorem read_eq_ok_iff {env : Environment} {s : Settings} :
    read env = .ok s ↔
      Given env "HOST" "localhost" (fun text host => host = String.ofList text) s.host ∧
      Given env "PORT" 8080 (fun text port => IsNumber 65535 text port.toNat) s.port ∧
      Given env "WORKERS" 2
        (fun text count => IsNumber 18446744073709551615 text count.toNat) s.workers ∧
      Given env "MAX_CONNECTIONS" 100
        (fun text count => IsNumber 18446744073709551615 text count.toNat) s.maxConnections := by
  unfold read
  rw [setting_bind_eq_ok_iff reads_host]
  simp only [setting_bind_eq_ok_iff reads_port, setting_bind_eq_ok_iff reads_count,
    Except.ok.injEq]
  constructor
  · rintro ⟨host, hhost, port, hport, workers, hworkers, max, hmax, rfl⟩
    exact ⟨hhost, hport, hworkers, hmax⟩
  · rintro ⟨hhost, hport, hworkers, hmax⟩
    exact ⟨_, hhost, _, hport, _, hworkers, _, hmax, rfl⟩

theorem read_eq_error_iff {env : Environment} {f : Failure} :
    read env = .error f ↔ FirstUnreadable env forms f := by
  unfold read
  refine setting_bind_eq_error_iff reads_host fun host => ?_
  refine setting_bind_eq_error_iff reads_port fun port => ?_
  refine setting_bind_eq_error_iff reads_count fun workers => ?_
  refine setting_bind_eq_error_iff reads_count fun max => ?_
  constructor
  · intro h
    cases h
  · intro h
    cases h

theorem exists_read_eq_ok_iff {env : Environment} :
    (∃ s, read env = .ok s) ↔ ∀ v ∈ forms, Readable env v.1 v.2 := by
  constructor
  · rintro ⟨s, hs⟩
    obtain ⟨hhost, hport, hworkers, hmax⟩ := read_eq_ok_iff.mp hs
    simp only [forms, List.forall_mem_cons]
    exact ⟨hhost.readable reads_host, hport.readable reads_port, hworkers.readable reads_count,
      hmax.readable reads_count, by simp⟩
  · intro h
    cases hread : read env with
    | ok s => exact ⟨s, rfl⟩
    | error f =>
      obtain ⟨v, hv, hnot⟩ := (read_eq_error_iff.mp hread).exists_mem
      exact absurd (h v hv) hnot

/-- **Settings are read exactly as the environment gives them.** They are the defaults where a
variable is not set, and else the host that the text is and the numbers that the texts denote. They
can be read if and only if every variable that is set is a text of its form; and if they cannot, the
failure names the first variable in order that is not, with its value. -/
theorem settings_read_exactly (env : Environment) :
    (∀ s, read env = .ok s ↔
      Given env "HOST" "localhost" (fun text host => host = String.ofList text) s.host ∧
      Given env "PORT" 8080 (fun text port => IsNumber 65535 text port.toNat) s.port ∧
      Given env "WORKERS" 2
        (fun text count => IsNumber 18446744073709551615 text count.toNat) s.workers ∧
      Given env "MAX_CONNECTIONS" 100
        (fun text count => IsNumber 18446744073709551615 text count.toNat) s.maxConnections) ∧
    ((∃ s, read env = .ok s) ↔ ∀ v ∈ forms, Readable env v.1 v.2) ∧
    (∀ f, read env = .error f ↔ FirstUnreadable env forms f) :=
  ⟨fun _ => read_eq_ok_iff, exists_read_eq_ok_iff, fun _ => read_eq_error_iff⟩

/-! ## Values that are not text -/

/-- Whatever is to be read from it, a value that is not text is reported as it is shown. -/
theorem setting_of_ne_encode {α : Type} {env : Environment} {key : String} {bytes : List UInt8}
    (hset : env.get? key = some bytes) (hbytes : ∀ text, bytes ≠ Utf8.encode text) (default : α)
    (read : List Char → Option α) :
    setting env key default read
      = .error (.invalidSetting key (String.ofList (Utf8.decodeLossy bytes))) := by
  unfold setting
  simp only [hset, Utf8.decode?_eq_none_iff.mpr hbytes, Option.bind_none]

/-- **A value that is not text is reported piece by piece.** Its bytes split in one way, without a
gap, into encodings of characters and maximal subparts of one to three bytes. Characters are shown
as they are and each subpart as one replacement character, of which there is at least one. Texts
before and after the bytes change nothing in between, and a text is shown as strict reading has
it. -/
theorem malformed_value_reported_by_pieces (bytes : List UInt8) :
    (∃ ps, Utf8.Splits bytes ps ∧ (∀ ps', Utf8.Splits bytes ps' → ps' = ps) ∧
      ps.flatMap Utf8.Piece.bytes = bytes ∧
      (∀ bad, .invalid bad ∈ ps → 1 ≤ bad.length ∧ bad.length ≤ 3) ∧
      Utf8.decodeLossy bytes = ps.map Utf8.Piece.shown) ∧
    ((∀ text, bytes ≠ Utf8.encode text) →
      ∀ (α : Type) (env : Environment) (key : String) (default : α) (read : List Char → Option α),
        env.get? key = some bytes → setting env key default read
          = .error (.invalidSetting key (String.ofList (Utf8.decodeLossy bytes)))) ∧
    (∀ before after, Utf8.decodeLossy (Utf8.encode before ++ bytes ++ Utf8.encode after)
      = before ++ Utf8.decodeLossy bytes ++ after) ∧
    (∀ text, bytes = Utf8.encode text →
      Utf8.decode? bytes = some text ∧ Utf8.decodeLossy bytes = text) ∧
    ((∀ text, bytes ≠ Utf8.encode text) → Char.ofNat 0xFFFD ∈ Utf8.decodeLossy bytes) := by
  have hsplits := Utf8.splits_pieces bytes
  refine ⟨⟨Utf8.pieces bytes, hsplits, fun ps hps => (Utf8.splits_iff.mp hps).symm,
      Utf8.flatMap_bytes_pieces bytes, fun bad => hsplits.length_of_invalid, rfl⟩, ?_,
    fun before after => Utf8.decodeLossy_between before bytes after, ?_,
    Utf8.replacement_mem_decodeLossy⟩
  · intro hbytes α env key default read hset
    exact setting_of_ne_encode hset hbytes default read
  · rintro text rfl
    exact ⟨Utf8.decode?_eq_some_iff.mpr rfl, Utf8.decodeLossy_encode text⟩

/-- Between an `8` and an `A`, encodings of three and four bytes break off; after the `A`, two bytes
of a surrogate are subparts of their own. -/
theorem broken_encodings_reported :
    (∀ text, [0x38, 0xE2, 0x82, 0xF0, 0x9F, 0x98, 0x41, 0xED, 0xA0] ≠ Utf8.encode text) ∧
    setting ⟨[⟨"PORT", [0x38, 0xE2, 0x82, 0xF0, 0x9F, 0x98, 0x41, 0xED, 0xA0], by decide⟩]⟩
        "PORT" (8080 : UInt16) port?
      = .error (.invalidSetting "PORT" (String.ofList ['8', Char.ofNat 0xFFFD, Char.ofNat 0xFFFD,
          'A', Char.ofNat 0xFFFD, Char.ofNat 0xFFFD])) := by
  have hbytes : ∀ text, [0x38, 0xE2, 0x82, 0xF0, 0x9F, 0x98, 0x41, 0xED, 0xA0] ≠ Utf8.encode text :=
    Utf8.decode?_eq_none_iff.mp (by decide +kernel)
  have hshown : Utf8.decodeLossy [0x38, 0xE2, 0x82, 0xF0, 0x9F, 0x98, 0x41, 0xED, 0xA0]
      = ['8', Char.ofNat 0xFFFD, Char.ofNat 0xFFFD, 'A', Char.ofNat 0xFFFD, Char.ofNat 0xFFFD] := by
    decide +kernel
  obtain ⟨-, hreport, -⟩ := malformed_value_reported_by_pieces
    [0x38, 0xE2, 0x82, 0xF0, 0x9F, 0x98, 0x41, 0xED, 0xA0]
  have hsetting := hreport hbytes UInt16
    ⟨[⟨"PORT", [0x38, 0xE2, 0x82, 0xF0, 0x9F, 0x98, 0x41, 0xED, 0xA0], by decide⟩]⟩ "PORT" 8080
    port? rfl
  rw [hshown] at hsetting
  exact ⟨hbytes, hsetting⟩

end UserDirectory.Settings
