import Mathlib.Data.List.TakeWhile
import UserDirectory.Http.Uri

/-!
# Targets and their paths

The path of a target is decided by what stands before its query and its fragment, in every form that
a target may have (`Uri.parse?_beforeQuery`). Readers of the parts of a target stop before a
question mark and a number sign anyway, so each of them reads the same when these are cut off.
-/

namespace UserDirectory

theorem Utf8.size_takeWhile_le (p : Char → Bool) (s : List Char) :
    size (s.takeWhile p) ≤ size s := by
  induction s with
  | nil => exact Nat.le_refl _
  | cons c s ih =>
    by_cases hc : p c = true
    · rw [List.takeWhile_cons_of_pos hc, size, size]
      omega
    · rw [List.takeWhile_cons_of_neg hc, size]
      exact Nat.zero_le _

namespace Uri

/-- What stands before the query and the fragment of a target. -/
def beforeQuery (s : List Char) : List Char := s.takeWhile fun c => !endsPath c

theorem eq_of_endsPath {c : Char} (h : endsPath c = true) : c = '?' ∨ c = '#' := by
  simpa [endsPath] using h

theorem beforeQuery_cons_of_ends {c : Char} (hc : endsPath c = true) (s : List Char) :
    beforeQuery (c :: s) = [] := List.takeWhile_cons_of_neg (by simp [hc])

theorem beforeQuery_cons {c : Char} (hc : endsPath c = false) (s : List Char) :
    beforeQuery (c :: s) = c :: beforeQuery s := List.takeWhile_cons_of_pos (by simp [hc])

theorem beforeQuery_eq_self {s : List Char} (hs : ∀ c ∈ s, endsPath c = false) :
    beforeQuery s = s :=
  List.takeWhile_eq_self_iff.mpr fun c hc => by simp [hs c hc]

/-- What is read up to a query or a fragment, or less, is read without them too. -/
theorem takeWhile_beforeQuery {p : Char → Bool} (hp : ∀ c, endsPath c = true → p c = false)
    (s : List Char) : (beforeQuery s).takeWhile p = s.takeWhile p := by
  induction s with
  | nil => rfl
  | cons c s ih =>
    by_cases hc : endsPath c = true
    · rw [beforeQuery_cons_of_ends hc, List.takeWhile_cons_of_neg (by simp [hp c hc]),
        List.takeWhile_nil]
    · rw [beforeQuery_cons (by simpa using hc), List.takeWhile_cons, List.takeWhile_cons, ih]

theorem dropWhile_beforeQuery {p : Char → Bool} (hp : ∀ c, endsPath c = true → p c = false)
    (s : List Char) : (beforeQuery s).dropWhile p = beforeQuery (s.dropWhile p) := by
  induction s with
  | nil => rfl
  | cons c s ih =>
    by_cases hc : endsPath c = true
    · rw [List.dropWhile_cons_of_neg (by simp [hp c hc]), beforeQuery_cons_of_ends hc,
        List.dropWhile_nil]
    · rw [beforeQuery_cons (by simpa using hc), List.dropWhile_cons, List.dropWhile_cons, ih]
      split
      · rfl
      · rw [beforeQuery_cons (by simpa using hc)]

theorem pathAndQuery?_beforeQuery {s : List Char} {u : Uri} (h : pathAndQuery? s = some u) :
    pathAndQuery? (beforeQuery s) = some ⟨u.path, none⟩ := by
  have hpath : (beforeQuery s).takeWhile (fun c => !endsPath c)
      = s.takeWhile fun c => !endsPath c :=
    takeWhile_beforeQuery (fun c hc => by simp [hc]) s
  have hquery : (beforeQuery s).dropWhile (fun c => !endsPath c) = [] := by
    rw [List.dropWhile_eq_nil_iff]
    intro c hc
    exact List.mem_takeWhile_imp (p := fun c => !endsPath c) hc
  simp only [pathAndQuery?] at h
  split at h
  · next hall =>
    obtain ⟨query, -, rfl⟩ := Option.map_eq_some_iff.mp h
    simp only [pathAndQuery?, hpath, hquery, hall, if_true]
    rfl
  · cases h

/-! ## Authorities and absolute targets -/

theorem endsPath_eq_false_of_step {a b : Authority} {c : Char} (h : a.step c = some b) :
    endsPath c = false := by
  cases hc : endsPath c with
  | false => rfl
  | true =>
    rcases eq_of_endsPath hc with rfl | rfl
    · cases h
    · cases h

/-- An authority has no query and no fragment. -/
theorem endsPath_eq_false_of_isAuthority {s : List Char} (h : isAuthority s = true) :
    ∀ c ∈ s, endsPath c = false := by
  have hfold : ∀ (s : List Char) (a b : Authority), s.foldlM Authority.step a = some b →
      ∀ c ∈ s, endsPath c = false := by
    intro s
    induction s with
    | nil => simp
    | cons c s ih =>
      intro a b hab
      rw [List.foldlM_cons, Option.bind_eq_bind, Option.bind_eq_some_iff] at hab
      obtain ⟨a', ha', hrest⟩ := hab
      exact List.forall_mem_cons.mpr ⟨endsPath_eq_false_of_step ha', ih a' b hrest⟩
  rw [isAuthority, Bool.and_eq_true] at h
  cases hs : s.foldlM Authority.step ⟨0, false, false, false⟩ with
  | none =>
    rw [hs] at h
    cases h.1
  | some b => exact hfold s _ b hs

theorem endsAuthority_of_endsPath {c : Char} (h : endsPath c = true) : endsAuthority c = true := by
  rcases eq_of_endsPath h with rfl | rfl
  · rfl
  · rfl

theorem hierarchy?_beforeQuery {s : List Char} {u : Uri} (h : hierarchy? s = some u) :
    hierarchy? (beforeQuery s) = some ⟨u.path, none⟩ := by
  have hends : ∀ c, endsPath c = true → (!endsAuthority c) = false := fun c hc => by
    simp [endsAuthority_of_endsPath hc]
  simp only [hierarchy?] at h ⊢
  rw [takeWhile_beforeQuery hends, dropWhile_beforeQuery hends]
  split at h
  · cases h
  · next hauthority =>
    rw [if_neg hauthority]
    exact pathAndQuery?_beforeQuery h

/-- An absolute target is an authority alone or has a scheme in front. -/
theorem absolute?_eq_some {s : List Char} {u : Uri} (h : absolute? s = some u) :
    (isAuthority s = true ∧ u = ⟨"", none⟩) ∨
      ∃ rest, s.dropWhile isSchemeChar = ':' :: '/' :: '/' :: rest ∧
        (s.takeWhile isSchemeChar).length ≤ 64 ∧ hierarchy? rest = some u := by
  unfold absolute? at h
  split at h
  · next rest hrest =>
    split at h
    · cases h
    · next hlen => exact .inr ⟨rest, hrest, Nat.le_of_not_lt hlen, h⟩
  · split at h
    · next hauthority => exact .inl ⟨hauthority, (Option.some.inj h).symm⟩
    · cases h

/-- A target with a scheme in front is an absolute one. -/
theorem parse?_of_scheme {s rest : List Char} (hsize : Utf8.size s ≤ greatestSize)
    (hscheme : s.dropWhile isSchemeChar = ':' :: '/' :: '/' :: rest)
    (hlen : (s.takeWhile isSchemeChar).length ≤ 64) :
    parse? (String.ofList s) = hierarchy? rest := by
  unfold parse?
  rw [String.toList_ofList, if_neg (Nat.not_lt_of_le hsize)]
  -- the other forms do not go on with a colon after the characters of a scheme
  split
  · cases hscheme
  · cases hscheme
  · cases hscheme
  · rw [absolute?, hscheme]
    exact if_neg (Nat.not_lt_of_le hlen)

theorem isSchemeChar_eq_false_of_endsPath {c : Char} (h : endsPath c = true) :
    isSchemeChar c = false := by
  rcases eq_of_endsPath h with rfl | rfl
  · rfl
  · rfl

/-- **The path of a target does not depend on its query and its fragment**: without them the target
is well-formed too, and has the same path. -/
theorem parse?_beforeQuery {target : String} {u : Uri} (h : parse? target = some u) :
    parse? (String.ofList (beforeQuery target.toList)) = some ⟨u.path, none⟩ := by
  have hparse := h
  unfold parse? at h
  split at h
  · cases h
  next hsize =>
  have hsize' : Utf8.size (beforeQuery target.toList) ≤ greatestSize :=
    Nat.le_trans (Utf8.size_takeWhile_le _ _) (Nat.le_of_not_lt hsize)
  split at h
  · cases h
  · next htarget =>
    obtain rfl := Option.some.inj h
    rw [htarget]
    rfl
  · next s htarget =>
    have hpath := pathAndQuery?_beforeQuery h
    rw [htarget, beforeQuery_cons rfl] at hsize' ⊢
    rw [beforeQuery_cons rfl] at hpath
    unfold parse?
    rw [String.toList_ofList, if_neg (Nat.not_lt_of_le hsize')]
    exact hpath
  · rcases absolute?_eq_some h with ⟨hauthority, rfl⟩ | ⟨rest, hscheme, hlen, hrest⟩
    · rw [beforeQuery_eq_self (endsPath_eq_false_of_isAuthority hauthority), String.ofList_toList]
      exact hparse
    · have hends : ∀ c, endsPath c = true → isSchemeChar c = false :=
        fun c => isSchemeChar_eq_false_of_endsPath
      have hscheme' : (beforeQuery target.toList).dropWhile isSchemeChar
          = ':' :: '/' :: '/' :: beforeQuery rest := by
        rw [dropWhile_beforeQuery hends, hscheme]
        rfl
      rw [← takeWhile_beforeQuery hends] at hlen
      rw [parse?_of_scheme hsize' hscheme' hlen]
      exact hierarchy?_beforeQuery hrest

end Uri

end UserDirectory
