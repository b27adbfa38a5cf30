/-!
# Steps that may fail

When a reader made of several steps succeeds: each of its steps does, and what one gives is what the
next one starts from.
-/

namespace UserDirectory

variable {ε α β : Type}

/-- A sequence of two steps succeeds when both do. -/
theorem bind_eq_ok_iff {x : Except ε α} {f : α → Except ε β} {b : β} :
    (x >>= f) = .ok b ↔ ∃ a, x = .ok a ∧ f a = .ok b := by
  cases x with
  | error e =>
    constructor
    · intro h
      cases h
    · rintro ⟨a, h, -⟩
      cases h
  | ok a =>
    constructor
    · intro h
      exact ⟨a, rfl, h⟩
    · rintro ⟨a', h, hf⟩
      obtain rfl := Except.ok.inj h
      exact hf

theorem map_eq_ok_iff {x : Except ε α} {f : α → β} {b : β} :
    x.map f = .ok b ↔ ∃ a, x = .ok a ∧ f a = b := by
  cases x with
  | error e => simp [Except.map]
  | ok a => simp [Except.map]

/-- A step that checks bounds is passed exactly within them. -/
theorem ite_bind_eq_ok_iff {p : Prop} [Decidable p] {a : α} {e : ε} {f : α → Except ε β} {b : β} :
    ((if p then .ok a else .error e : Except ε α) >>= f) = .ok b ↔ p ∧ f a = .ok b := by
  split
  · next hp => exact (and_iff_right hp).symm
  · next hp =>
    refine iff_of_false ?_ fun h => hp h.1
    intro h
    cases h

end UserDirectory
