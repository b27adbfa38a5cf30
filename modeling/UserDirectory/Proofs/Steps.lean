/-!
# Step after step

A system that takes steps from state to state gives something at each. What it gives at a step is
decided by the state that the steps before led to, and a property that every step keeps holds at the
end of all of them. A relation that every step keeps makes two states give the same throughout.
-/

namespace UserDirectory

variable {σ ε ο : Type}

/-- Takes steps one after the other: what each gives, and the state they lead to. -/
def stepAll (step : σ → ε → ο × σ) : σ → List ε → List ο × σ
  | s, [] => ([], s)
  | s, e :: es =>
    let (o, s) := step s e
    let (os, s) := stepAll step s es
    (o :: os, s)

theorem stepAll_cons (step : σ → ε → ο × σ) (s : σ) (e : ε) (es : List ε) :
    stepAll step s (e :: es)
      = ((step s e).1 :: (stepAll step (step s e).2 es).1, (stepAll step (step s e).2 es).2) := rfl

theorem length_stepAll (step : σ → ε → ο × σ) (s : σ) (es : List ε) :
    (stepAll step s es).1.length = es.length := by
  induction es generalizing s with
  | nil => rfl
  | cons e es ih => rw [stepAll_cons, List.length_cons, List.length_cons, ih]

theorem stepAll_append (step : σ → ε → ο × σ) (s : σ) (es es' : List ε) :
    stepAll step s (es ++ es')
      = ((stepAll step s es).1 ++ (stepAll step (stepAll step s es).2 es').1,
        (stepAll step (stepAll step s es).2 es').2) := by
  induction es generalizing s with
  | nil => rfl
  | cons e es ih => rw [List.cons_append, stepAll_cons, ih, stepAll_cons, List.cons_append]

/-- What a step gives in the middle of others. -/
theorem getElem?_stepAll (step : σ → ε → ο × σ) (s : σ) (before : List ε) (e : ε)
    (after : List ε) :
    (stepAll step s (before ++ e :: after)).1[before.length]?
      = some (step (stepAll step s before).2 e).1 := by
  rw [stepAll_append, stepAll_cons, ← length_stepAll step s before,
    List.getElem?_append_right (Nat.le_refl _), Nat.sub_self, List.getElem?_cons_zero]

/-- **What every step keeps holds after all of them.** The property may speak of the steps taken so
far. -/
theorem stepAll_induction (step : σ → ε → ο × σ) (Holds : List ε → σ → Prop) {s : σ}
    (hstart : Holds [] s)
    (hstep : ∀ before s e, Holds before s → Holds (before ++ [e]) (step s e).2) (es : List ε) :
    Holds es (stepAll step s es).2 := by
  have hall : ∀ (es before : List ε) (s : σ), Holds before s →
      Holds (before ++ es) (stepAll step s es).2 := by
    intro es
    induction es with
    | nil =>
      intro before s h
      rw [List.append_nil]
      exact h
    | cons e es ih =>
      intro before s h
      rw [stepAll_cons, ← List.singleton_append, ← List.append_assoc]
      exact ih (before ++ [e]) (step s e).2 (hstep before s e h)
  exact hall es [] s hstart

/-- **Related states give the same, however many steps are taken**, if they do so at one step and
are led to related states by it. -/
theorem stepAll_eq_of_related (step : σ → ε → ο × σ) (Related : σ → σ → Prop)
    (hstep : ∀ s t e, Related s t →
      (step s e).1 = (step t e).1 ∧ Related (step s e).2 (step t e).2)
    {s t : σ} (h : Related s t) (es : List ε) : (stepAll step s es).1 = (stepAll step t es).1 := by
  induction es generalizing s t with
  | nil => rfl
  | cons e es ih =>
    obtain ⟨hgives, hleads⟩ := hstep s t e h
    rw [stepAll_cons, stepAll_cons, hgives, ih hleads]

/-- Steps that leave every state as it is may be left out. -/
theorem stepAll_filter (step : σ → ε → ο × σ) {p : ε → Bool}
    (hp : ∀ s e, p e = false → (step s e).2 = s) (s : σ) (es : List ε) :
    (stepAll step s (es.filter p)).2 = (stepAll step s es).2 := by
  induction es generalizing s with
  | nil => rfl
  | cons e es ih =>
    cases he : p e with
    | true => rw [List.filter_cons_of_pos he, stepAll_cons, stepAll_cons, ih]
    | false =>
      rw [List.filter_cons_of_neg (by simp [he]), ih, stepAll_cons, hp s e he]

end UserDirectory
