import UserDirectory.Text.Digits

/-!
# Numerals read back

Decimal numerals, padded or not, consist of digits and denote the number they were written for.

* `IsDigits`, `NoDigit`: a run of digits, and a text that does not go on with one
* `value_toDigits`, `value_padded`: the value of a written number is the number
* `value_append`, `value_lt`: what digits are worth by their places
* `length_padded`: a number that fits its width takes exactly that width
-/

namespace UserDirectory

/-! ## Runs of digits -/

/-- One digit or more. -/
def IsDigits (s : List Char) : Prop := s ≠ [] ∧ ∀ c ∈ s, c.isDigit = true

instance (s : List Char) : Decidable (IsDigits s) :=
  decidable_of_iff (s ≠ [] ∧ s.all Char.isDigit = true) (and_congr_right' List.all_eq_true)

/-- The text does not begin with a digit. -/
def NoDigit (r : List Char) : Prop := ∀ c ∈ r.head?, c.isDigit = false

theorem noDigit_cons {c : Char} {r : List Char} (hc : c.isDigit = false) : NoDigit (c :: r) := by
  intro d hd
  rw [List.head?_cons, Option.mem_some_iff] at hd
  exact hd ▸ hc

theorem IsDigits.exists_cons {ds : List Char} (h : IsDigits ds) :
    ∃ c s, ds = c :: s ∧ c.isDigit = true := by
  cases ds with
  | nil => exact absurd rfl h.1
  | cons c s => exact ⟨c, s, rfl, h.2 c List.mem_cons_self⟩

namespace Digits

/-! ## Values -/

/-- A digit is worth its distance from zero. -/
theorem value_singleton (c : Char) : value [c] = c.toNat - 48 := by
  unfold value
  rw [Nat.ofDigitChars_cons, Nat.ofDigitChars_nil]
  simp

@[simp] theorem value_toDigits (n : Nat) : value (Nat.toDigits 10 n) = n :=
  Nat.ofDigitChars_ten_toDigits

/-- Zeros in front do not count. -/
@[simp] theorem value_padded (width n : Nat) : value (padded width n) = n := by
  unfold padded
  rw [value, Nat.ofDigitChars_append, Nat.ofDigitChars_replicate_zero, Nat.mul_zero]
  exact value_toDigits n

/-- The digits in front count by how many follow them. -/
theorem value_append (s t : List Char) :
    value (s ++ t) = value s * Nat.pow 10 t.length + value t := by
  unfold value
  rw [Nat.ofDigitChars_append, Nat.ofDigitChars_eq_ofDigitChars_zero, Nat.mul_comm]
  rfl

/-- A number of so many digits is less than that power of ten. -/
theorem value_lt {ds : List Char} (h : ∀ c ∈ ds, c.isDigit = true) :
    value ds < Nat.pow 10 ds.length := by
  induction ds with
  | nil => exact Nat.one_pos
  | cons c ds ih =>
    obtain ⟨hc, hds⟩ := List.forall_mem_cons.mp h
    have hc : c.toNat ≤ 57 := by
      simp only [Char.isDigit, Bool.and_eq_true, decide_eq_true_eq] at hc
      exact hc.2
    have hlt := ih hds
    have hpow : Nat.pow 10 (c :: ds).length = Nat.pow 10 ds.length * 10 := rfl
    have hfirst : value [c] * Nat.pow 10 ds.length ≤ 9 * Nat.pow 10 ds.length := by
      rw [value_singleton]
      exact Nat.mul_le_mul_right _ (by omega)
    rw [← List.singleton_append, value_append, List.singleton_append, hpow]
    omega

/-- More digits never make a number smaller. -/
theorem le_ofDigitChars (n : Nat) (ds : List Char) : n ≤ Nat.ofDigitChars 10 ds n := by
  induction ds generalizing n with
  | nil => exact Nat.le_of_eq Nat.ofDigitChars_nil.symm
  | cons d ds ih =>
    rw [Nat.ofDigitChars_cons]
    have := ih (10 * n + (d.toNat - '0'.toNat))
    omega

/-! ## Characters and lengths -/

theorem isDigit_of_mem_padded {width n : Nat} {c : Char} (h : c ∈ padded width n) :
    c.isDigit = true := by
  rcases List.mem_append.mp h with h | h
  · rw [List.eq_of_mem_replicate h]
    rfl
  · exact Nat.isDigit_of_mem_toDigits (by decide) (by decide) h

theorem padded_ne_nil (width n : Nat) : padded width n ≠ [] := by
  simp [padded, Nat.toDigits_ne_nil]

/-- A number that fits its width takes exactly that width. -/
theorem length_padded {width n : Nat} (hw : 0 < width) (h : n < Nat.pow 10 width) :
    (padded width n).length = width := by
  have hle : (Nat.toDigits 10 n).length ≤ width :=
    (Nat.length_toDigits_le_iff (by decide) hw).mpr h
  rw [padded, List.length_append, List.length_replicate]
  omega

/-- Only the numeral of zero begins with a zero. -/
theorem eq_zero_of_toDigits_eq {n : Nat} {s : List Char} (h : Nat.toDigits 10 n = '0' :: s) :
    n = 0 := by
  induction n using Nat.strongRecOn generalizing s with
  | _ n ih =>
    rw [Nat.toDigits_eq_if (by decide)] at h
    split at h
    · rw [List.cons.injEq, Nat.digitChar_eq_zero] at h
      exact h.1
    · next hn =>
      -- the quotient has the same first digit and is zero by induction
      cases hq : Nat.toDigits 10 (n / 10) with
      | nil => exact absurd hq Nat.toDigits_ne_nil
      | cons c t =>
        rw [hq, List.cons_append, List.cons.injEq] at h
        have := ih (n / 10) (by omega) (h.1 ▸ hq)
        omega

end Digits

end UserDirectory
