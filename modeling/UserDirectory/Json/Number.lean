import UserDirectory.Json.Literal

/-!
# Numbers

A number is an optional minus sign, digits without a superfluous zero in front, an optional
fraction and an optional exponent.

## Reading and skipping

Where a value is wanted, the number is read with its value: an integer as long as it has neither
fraction nor exponent and fits 64 bits, otherwise a floating point number, of whose digits those
count that fit 64 bits. A number that exceeds the floating point format is malformed. Where a value
is passed over, only its form matters, and a number that is cut short is malformed rather than a
text that ended.
-/

namespace UserDirectory.Json

/-- The largest integer of 64 bits. -/
def greatestWord : Nat := 18446744073709551615

/-- The digits in front, and the text after them. -/
def spanDigits (s : List Char) : List Char × List Char :=
  (s.takeWhile Char.isDigit, s.dropWhile Char.isDigit)

/-- Appends digits to a number as long as it fits 64 bits. Gives the number and how many digits
were left over. -/
def absorb (n : Nat) : List Char → Nat × Nat
  | [] => (n, 0)
  | d :: digits =>
    if greatestWord < 10 * n + Digits.value [d] then (n, digits.length + 1)
    else absorb (10 * n + Digits.value [d]) digits

/-! ## Reading -/

/-- Reads the digits that have to follow. -/
def readDigits : List Char → Except Error (List Char × List Char)
  | [] => .error .eof
  | c :: s =>
    if c.isDigit then .ok (spanDigits (c :: s)) else .error .malformed

/-- Reads the digits before the point. A zero in front stands alone. -/
def readWhole : List Char → Except Error (List Char × List Char)
  | '0' :: s =>
    match s with
    | d :: _ => if d.isDigit then .error .malformed else .ok (['0'], s)
    | [] => .ok (['0'], s)
  | s => readDigits s

/-- Reads a fraction, if there is one; `none` when there is not. -/
def readFraction : List Char → Except Error (Option (List Char) × List Char)
  | '.' :: s =>
    match readDigits s with
    | .error e => .error e
    | .ok (digits, s) => .ok (some digits, s)
  | s => .ok (none, s)

/-- Reads the sign and the digits of an exponent. -/
def readSignedExponent : List Char → Except Error (Int × List Char)
  | '-' :: s =>
    match readDigits s with
    | .error e => .error e
    | .ok (digits, s) => .ok (-(Digits.value digits : Int), s)
  | '+' :: s =>
    match readDigits s with
    | .error e => .error e
    | .ok (digits, s) => .ok ((Digits.value digits : Int), s)
  | s =>
    match readDigits s with
    | .error e => .error e
    | .ok (digits, s) => .ok ((Digits.value digits : Int), s)

/-- Reads an exponent, if there is one; `none` when there is not. -/
def readExponent : List Char → Except Error (Option Int × List Char)
  | [] => .ok (none, [])
  | c :: s =>
    if c = 'e' ∨ c = 'E' then
      match readSignedExponent s with
      | .error e => .error e
      | .ok (n, s) => .ok (some n, s)
    else .ok (none, c :: s)

/-- The number with the given parts; none when it exceeds the floating point format. -/
def Number.ofParts? (negative : Bool) (whole : List Char) (fraction : Option (List Char))
    (exponent : Option Int) : Option Number :=
  let (n, left) := absorb 0 whole
  match fraction, exponent, left with
  | none, none, 0 =>
    if negative then
      if n = 0 ∨ 9223372036854775808 < n then (Binary64.ofDecimal? n 0).map (.float true)
      else some (.integer (-n))
    else some (.integer n)
  | _, _, _ =>
    let digits := fraction.getD []
    let (m, left') := absorb n digits
    let power : Int := left - (digits.length - left' : Nat) + exponent.getD 0
    (Binary64.ofDecimal? m power).map (.float negative)

/-- Reads a number after its sign. -/
def readNumber (negative : Bool) (s : List Char) : Except Error (Number × List Char) := do
  let (whole, s) ← readWhole s
  let (fraction, s) ← readFraction s
  let (exponent, s) ← readExponent s
  match Number.ofParts? negative whole fraction exponent with
  | some n => .ok (n, s)
  | none => .error .malformed

/-! ## Skipping -/

/-- Passes over the digits that have to follow. -/
def skipDigits (s : List Char) : Except Error (List Char) :=
  if (spanDigits s).1.isEmpty then .error .malformed else .ok (spanDigits s).2

/-- Passes over the digits before the point. -/
def skipWhole : List Char → Except Error (List Char)
  | '0' :: s =>
    match s with
    | d :: _ => if d.isDigit then .error .malformed else .ok s
    | [] => .ok s
  | s => skipDigits s

/-- Passes over a fraction, if there is one. -/
def skipFraction : List Char → Except Error (List Char)
  | '.' :: s => skipDigits s
  | s => .ok s

/-- Passes over an exponent, if there is one. -/
def skipExponent : List Char → Except Error (List Char)
  | [] => .ok []
  | c :: s =>
    if c = 'e' ∨ c = 'E' then
      match s with
      | '-' :: s => skipDigits s
      | '+' :: s => skipDigits s
      | s => skipDigits s
    else .ok (c :: s)

/-- Passes over a number after its sign. -/
def skipNumber (s : List Char) : Except Error (List Char) := do
  let s ← skipWhole s
  let s ← skipFraction s
  skipExponent s

/-! ## Readers make the text shorter -/

theorem spanDigits_length_lt {c : Char} {s : List Char} (h : c.isDigit = true) :
    (spanDigits (c :: s)).2.length < (c :: s).length := by
  have := (List.dropWhile_sublist Char.isDigit (l := s)).length_le
  simp only [spanDigits, List.dropWhile_cons, h, if_true, List.length_cons]
  omega

theorem readDigits_length {s r digits : List Char} (h : readDigits s = .ok (digits, r)) :
    r.length < s.length := by
  unfold readDigits at h
  split at h
  · simp at h
  · split at h
    · next hd =>
      have := spanDigits_length_lt hd (s := ‹_›)
      simp only [Except.ok.injEq] at h
      rw [h] at this
      exact this
    · simp at h

theorem readWhole_length {s r digits : List Char} (h : readWhole s = .ok (digits, r)) :
    r.length < s.length := by
  unfold readWhole at h
  split at h
  · split at h
    · split at h
      · simp at h
      · simp only [Except.ok.injEq, Prod.mk.injEq] at h
        simp [← h.2]
    · simp only [Except.ok.injEq, Prod.mk.injEq] at h
      simp [← h.2]
  · exact readDigits_length h

theorem readFraction_length {s r : List Char} {digits : Option (List Char)}
    (h : readFraction s = .ok (digits, r)) : r.length ≤ s.length := by
  unfold readFraction at h
  split at h
  · split at h
    · simp at h
    · next hx =>
      have := readDigits_length hx
      simp only [Except.ok.injEq, Prod.mk.injEq] at h
      simp only [← h.2, List.length_cons]
      omega
  · simp only [Except.ok.injEq, Prod.mk.injEq] at h
    simp [← h.2]

theorem readSignedExponent_length {s r : List Char} {n : Int}
    (h : readSignedExponent s = .ok (n, r)) : r.length ≤ s.length := by
  unfold readSignedExponent at h
  split at h
  all_goals
    split at h
    · simp at h
    · next hx =>
      have := readDigits_length hx
      simp only [Except.ok.injEq, Prod.mk.injEq] at h
      simp only [← h.2, List.length_cons]
      omega

theorem readExponent_length {s r : List Char} {n : Option Int}
    (h : readExponent s = .ok (n, r)) : r.length ≤ s.length := by
  unfold readExponent at h
  split at h
  · simp only [Except.ok.injEq, Prod.mk.injEq] at h
    simp [← h.2]
  · split at h
    · split at h
      · simp at h
      · next hx =>
        have := readSignedExponent_length hx
        simp only [Except.ok.injEq, Prod.mk.injEq] at h
        simp only [← h.2, List.length_cons]
        omega
    · simp only [Except.ok.injEq, Prod.mk.injEq] at h
      simp [← h.2]

/-- A number read makes the text shorter. -/
theorem readNumber_length {negative : Bool} {s r : List Char} {n : Number}
    (h : readNumber negative s = .ok (n, r)) : r.length < s.length := by
  unfold readNumber at h
  cases hw : readWhole s with
  | error e => simp [hw, bind, Except.bind] at h
  | ok w =>
    simp only [hw, bind, Except.bind] at h
    cases hf : readFraction w.2 with
    | error e => simp [hf] at h
    | ok f =>
      simp only [hf] at h
      cases he : readExponent f.2 with
      | error e => simp [he] at h
      | ok e =>
        simp only [he] at h
        have := readWhole_length hw
        have := readFraction_length hf
        have := readExponent_length he
        split at h
        · simp only [Except.ok.injEq, Prod.mk.injEq] at h
          rw [← h.2]
          omega
        · simp at h

theorem skipDigits_length {s r : List Char} (h : skipDigits s = .ok r) : r.length < s.length := by
  unfold skipDigits at h
  split at h
  · simp at h
  · next hne =>
    simp only [Except.ok.injEq] at h
    cases s with
    | nil => simp [spanDigits] at hne
    | cons c s =>
      by_cases hc : c.isDigit = true
      · exact h ▸ spanDigits_length_lt hc
      · simp [spanDigits, hc] at hne

theorem skipWhole_length {s r : List Char} (h : skipWhole s = .ok r) : r.length < s.length := by
  unfold skipWhole at h
  split at h
  · split at h
    · split at h
      · simp at h
      · simp only [Except.ok.injEq] at h
        simp [← h]
    · simp only [Except.ok.injEq] at h
      simp [← h]
  · exact skipDigits_length h

theorem skipFraction_length {s r : List Char} (h : skipFraction s = .ok r) :
    r.length ≤ s.length := by
  unfold skipFraction at h
  split at h
  · have := skipDigits_length h
    simp only [List.length_cons]
    omega
  · simp only [Except.ok.injEq] at h
    simp [← h]

theorem skipExponent_length {s r : List Char} (h : skipExponent s = .ok r) :
    r.length ≤ s.length := by
  unfold skipExponent at h
  split at h
  · simp only [Except.ok.injEq] at h
    simp [← h]
  · split at h
    · split at h
      all_goals
        have := skipDigits_length h
        simp only [List.length_cons] at *
        omega
    · simp only [Except.ok.injEq] at h
      simp [← h]

/-- A number passed over makes the text shorter. -/
theorem skipNumber_length {s r : List Char} (h : skipNumber s = .ok r) : r.length < s.length := by
  unfold skipNumber at h
  cases hw : skipWhole s with
  | error e => simp [hw, bind, Except.bind] at h
  | ok w =>
    simp only [hw, bind, Except.bind] at h
    cases hf : skipFraction w with
    | error e => simp [hf] at h
    | ok f =>
      simp only [hf] at h
      have := skipWhole_length hw
      have := skipFraction_length hf
      have := skipExponent_length h
      omega

end UserDirectory.Json
