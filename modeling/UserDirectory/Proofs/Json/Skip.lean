import UserDirectory.Proofs.Json.Number

/-!
# The grammar of values that are passed over

Any value of any depth. The grammar has three parts (`Part`), since what follows an opening bracket
and what follows an item of a bracket are texts of their own:

* a value,
* the items of a bracket that has just been opened, up to its closing mark,
* the further items of a bracket after one of them, up to its closing mark.

## The machine

`Closes` says what the open brackets still demand of the text: each of them further items up to its
closing mark. A derivation drives the machine from the beginning of its text to the end
(`run_of_text`), and every accepting run has a derivation behind it (`demands_of_run`).
-/

namespace UserDirectory.Json

/-! ## Grammar -/

/-- A value that is neither an array nor an object. -/
inductive ScalarText : List Char → Prop where
  | word {w : List Char} :
      w ∈ [['n', 'u', 'l', 'l'], ['t', 'r', 'u', 'e'], ['f', 'a', 'l', 's', 'e']] → ScalarText w
  | number {m : List Char} : NumberText m → ScalarText m
  | string {b : List Char} : Passes b → ScalarText ('"' :: (b ++ ['"']))

/-- The character that opens the bracket. -/
def Frame.opening : Frame → Char
  | .array => '['
  | .object => '{'

/-- What stands before a value in a bracket: blanks, in an object with a key and a colon. -/
inductive LeadText : Frame → List Char → Prop where
  | array {w : List Char} : Blanks w → LeadText .array w
  | object {w b w' w'' : List Char} : Blanks w → Passes b → Blanks w' → Blanks w'' →
      LeadText .object (w ++ '"' :: (b ++ '"' :: (w' ++ ':' :: w'')))

/-- The parts of the grammar. -/
inductive Part where
  | value
  /-- What follows an opening bracket. -/
  | items (frame : Frame)
  /-- What follows an item of a bracket. -/
  | more (frame : Frame)

/-- The texts of a part. -/
inductive Part.Text : Part → List Char → Prop where
  | scalar {v : List Char} : ScalarText v → Text .value v
  | bracket {frame : Frame} {s : List Char} : Text (.items frame) s →
      Text .value (frame.opening :: s)
  | empty {frame : Frame} {w : List Char} : Blanks w → Text (.items frame) (w ++ [frame.close])
  | first {frame : Frame} {l v s : List Char} : LeadText frame l → Text .value v →
      Text (.more frame) s → Text (.items frame) (l ++ (v ++ s))
  | close {frame : Frame} {w : List Char} : Blanks w → Text (.more frame) (w ++ [frame.close])
  | next {frame : Frame} {w l v s : List Char} : Blanks w → LeadText frame l → Text .value v →
      Text (.more frame) s → Text (.more frame) (w ++ ',' :: (l ++ (v ++ s)))

/-- A value, of any kind and any depth. -/
abbrev IsValue (v : List Char) : Prop := Part.value.Text v

/-! ## How texts begin -/

theorem not_blank_of_isDigit {c : Char} (h : c.isDigit = true) : isBlank c = false :=
  isBlank_eq_false_of_integer (.inr h)

/-- A value begins with a character that is no blank, no comma and no closing bracket. -/
def StartsValue (c : Char) : Prop := isBlank c = false ∧ c ≠ ',' ∧ c ≠ ']' ∧ c ≠ '}'

theorem StartsValue.ne_close {c : Char} (h : StartsValue c) (frame : Frame) : c ≠ frame.close := by
  cases frame with
  | array => exact h.2.2.1
  | object => exact h.2.2.2

theorem startsValue_of_isDigit {c : Char} (h : c.isDigit = true) : StartsValue c := by
  refine ⟨not_blank_of_isDigit h, ?_, ?_, ?_⟩ <;>
    · rintro rfl
      exact absurd h (by decide)

theorem Magnitude.exists_cons {m : List Char} (h : Magnitude m) :
    ∃ c s, m = c :: s ∧ c.isDigit = true := by
  obtain ⟨hw, -, -⟩ := h
  obtain ⟨c, s, rfl, hc⟩ := hw.1.exists_cons
  exact ⟨c, _, rfl, hc⟩

/-- A scalar does not begin with an opening bracket either. -/
theorem ScalarText.exists_cons {v : List Char} (h : ScalarText v) :
    ∃ c s, v = c :: s ∧ StartsValue c ∧ c ≠ '[' ∧ c ≠ '{' := by
  have starts : ∀ c ∈ ['n', 't', 'f', '-', '"'], StartsValue c ∧ c ≠ '[' ∧ c ≠ '{' := by
    simp only [StartsValue, List.forall_mem_cons]
    exact ⟨by decide, by decide, by decide, by decide, by decide, by simp⟩
  cases h with
  | word hw =>
    simp only [List.mem_cons, List.not_mem_nil, or_false] at hw
    rcases hw with rfl | rfl | rfl <;> exact ⟨_, _, rfl, starts _ (by simp)⟩
  | number hn =>
    cases hn with
    | positive hm =>
      obtain ⟨c, s, rfl, hc⟩ := hm.exists_cons
      refine ⟨c, s, rfl, startsValue_of_isDigit hc, ?_, ?_⟩ <;>
        · rintro rfl
          exact absurd hc (by decide)
    | negative hm => exact ⟨_, _, rfl, starts _ (by simp)⟩
  | string hb => exact ⟨_, _, rfl, starts _ (by simp)⟩

theorem IsValue.exists_cons {v : List Char} (h : IsValue v) :
    ∃ c s, v = c :: s ∧ StartsValue c := by
  cases h with
  | scalar hs =>
    obtain ⟨c, s, hv, hc, -⟩ := hs.exists_cons
    exact ⟨c, s, hv, hc⟩
  | @bracket frame s hs =>
    refine ⟨frame.opening, s, rfl, ?_⟩
    cases frame <;> exact ⟨by decide, by decide, by decide, by decide⟩

/-- A number does not go on with a blank, a comma or a closing bracket. -/
theorem delimited_blanks_cons {w s : List Char} {c : Char} (hw : Blanks w)
    (hc : c = ',' ∨ c = ']' ∨ c = '}') : Delimited (w ++ c :: s) := by
  cases w with
  | nil => rcases hc with rfl | rfl | rfl <;> exact delimited_cons (by decide)
  | cons d w =>
    have hd := hw d List.mem_cons_self
    refine delimited_cons ⟨?_, ?_, ?_, ?_⟩
    · by_contra h
      rw [not_blank_of_isDigit (by simpa using h)] at hd
      cases hd
    all_goals
      rintro rfl
      exact absurd hd (by decide)

theorem Frame.close_eq (frame : Frame) : frame.close = ']' ∨ frame.close = '}' := by
  cases frame with
  | array => exact .inl rfl
  | object => exact .inr rfl

theorem Part.Text.delimited {frame : Frame} {s r : List Char} (h : Part.Text (.more frame) s) :
    Delimited (s ++ r) := by
  cases h with
  | close hw =>
    rw [List.append_assoc]
    exact delimited_blanks_cons hw (.inr frame.close_eq)
  | next hw _ _ _ =>
    rw [List.append_assoc]
    exact delimited_blanks_cons hw (.inl rfl)

/-! ## Leaves -/

theorem skipWord_eq_ok_iff {word s r : List Char} : skipWord word s = .ok r ↔ s = word ++ r := by
  induction word generalizing s with
  | nil => simp [skipWord]
  | cons w word ih =>
    cases s with
    | nil => simp [skipWord]
    | cons c s =>
      rw [skipWord]
      split
      · next hc => rw [ih, hc, List.cons_append, List.cons.injEq, and_iff_right rfl]
      · next hc =>
        constructor
        · intro h
          cases h
        · intro h
          exact absurd (List.cons.inj h).1 hc

/-- A scalar is passed over up to where it ends. -/
theorem skipScalar_eq_ok {c : Char} {s r : List Char} (h : ScalarText (c :: s)) (hr : Delimited r) :
    skipScalar c (s ++ r) = .ok r := by
  generalize hv : c :: s = v at h
  cases h with
  | word hw =>
    simp only [List.mem_cons, List.not_mem_nil, or_false] at hw
    rcases hw with rfl | rfl | rfl <;>
      · obtain ⟨rfl, rfl⟩ := List.cons.inj hv
        exact skipWord_eq_ok_iff.mpr rfl
  | number hn =>
    cases hn with
    | positive hm =>
      subst hv
      obtain ⟨d, t, hd, hdig⟩ := hm.exists_cons
      obtain ⟨rfl, rfl⟩ := List.cons.inj hd
      have hq : c ≠ '"' := by
        rintro rfl
        exact absurd hdig (by decide)
      have hm' : c ≠ '-' := by
        rintro rfl
        exact absurd hdig (by decide)
      rw [skipScalar, if_neg hq, if_neg hm', if_pos hdig]
      exact skipNumber_eq_ok hm hr
    | negative hm =>
      obtain ⟨rfl, rfl⟩ := List.cons.inj hv
      exact skipNumber_eq_ok hm hr
  | @string b hb =>
    obtain ⟨rfl, rfl⟩ := List.cons.inj hv
    exact skipString_eq_ok_iff.mpr ⟨b, hb, by simp⟩

/-- What is passed over as a scalar is one. -/
theorem exists_scalar_of_skipScalar {c : Char} {s r : List Char} (h : skipScalar c s = .ok r) :
    ∃ t, ScalarText (c :: t) ∧ s = t ++ r := by
  unfold skipScalar at h
  split at h
  · next hc =>
    obtain ⟨b, hb, rfl⟩ := skipString_eq_ok_iff.mp h
    exact ⟨b ++ ['"'], hc ▸ .string hb, by simp⟩
  · split at h
    · next hc =>
      obtain ⟨m, hm, rfl⟩ := exists_number_of_skipNumber h
      exact ⟨m, hc ▸ .number (.negative hm), rfl⟩
    · split at h
      · obtain ⟨m, hm, hs⟩ := exists_number_of_skipNumber h
        obtain ⟨d, t, rfl, -⟩ := hm.exists_cons
        obtain ⟨rfl, rfl⟩ := List.cons.inj hs
        exact ⟨t, .number (.positive hm), rfl⟩
      · iterate 3
          split at h
          · next hc => exact ⟨_, hc ▸ .word (by simp), skipWord_eq_ok_iff.mp h⟩
        simp at h

theorem colon_eq_ok_iff {s r : List Char} :
    colon s = .ok r ↔ ∃ w, Blanks w ∧ s = w ++ ':' :: r := by
  constructor
  · intro h
    unfold colon at h
    split at h
    · simp at h
    · next c s' hb =>
      obtain ⟨w, hw, rfl⟩ := exists_blanks_of_skipBlanks hb
      split at h
      · next hc =>
        obtain rfl := Except.ok.inj h
        exact ⟨w, hw, by rw [hc]⟩
      · simp at h
  · rintro ⟨w, hw, rfl⟩
    rw [colon, skipBlanks_append hw (by decide)]
    rfl

theorem skipKey_eq_ok_iff {s r : List Char} :
    skipKey s = .ok r ↔ ∃ w b w', Blanks w ∧ Passes b ∧ Blanks w' ∧
      s = w ++ '"' :: (b ++ '"' :: (w' ++ ':' :: r)) := by
  constructor
  · intro h
    unfold skipKey at h
    split at h
    · simp at h
    · next c s' hb =>
      obtain ⟨w, hw, rfl⟩ := exists_blanks_of_skipBlanks hb
      split at h
      · next hc =>
        split at h
        · simp at h
        · next s'' hs =>
          obtain ⟨b, hp, rfl⟩ := skipString_eq_ok_iff.mp hs
          obtain ⟨w', hw', rfl⟩ := colon_eq_ok_iff.mp h
          exact ⟨w, b, w', hw, hp, hw', by rw [hc]⟩
      · simp at h
  · rintro ⟨w, b, w', hw, hb, hw', rfl⟩
    have hkey : skipString (b ++ '"' :: (w' ++ ':' :: r)) = .ok (w' ++ ':' :: r) :=
      skipString_eq_ok_iff.mpr ⟨b, hb, rfl⟩
    rw [skipKey, skipBlanks_append hw (by decide)]
    simp only [if_true, hkey]
    exact colon_eq_ok_iff.mpr ⟨w', hw', rfl⟩

/-! ## Items -/

/-- Going on to an item passes over its lead, except for blanks before the value. -/
theorem Frame.item_eq_ok {frame : Frame} {l : List Char} (h : LeadText frame l)
    (stack : List Frame) : ∃ w, Blanks w ∧ ∀ s,
      frame.item stack (l ++ s) = .ok (.pending ⟨.value, frame :: stack, w ++ s⟩) := by
  cases h with
  | array hw => exact ⟨l, hw, fun s => rfl⟩
  | @object w b w' w'' hw hb hw' hw'' =>
    refine ⟨w'', hw'', fun s => ?_⟩
    have hkey : skipKey ((w ++ '"' :: (b ++ '"' :: (w' ++ ':' :: w''))) ++ s) = .ok (w'' ++ s) :=
      skipKey_eq_ok_iff.mpr ⟨w, b, w', hw, hb, hw', by simp⟩
    rw [Frame.item, hkey]

/-- Where an item is gone on to, its lead stands. -/
theorem Frame.exists_lead_of_item {frame : Frame} {stack : List Frame} {s : List Char}
    {p : Progress} (h : frame.item stack s = .ok p) :
    ∃ t, p = .pending ⟨.value, frame :: stack, t⟩ ∧
      ∀ w s', Blanks w → t = w ++ s' → ∃ l, LeadText frame l ∧ s = l ++ s' := by
  unfold Frame.item at h
  split at h
  · obtain rfl := Except.ok.inj h
    exact ⟨s, rfl, fun w s' hw ht => ⟨w, .array hw, ht⟩⟩
  · split at h
    · simp at h
    · next t hk =>
      obtain ⟨w, b, w', hw, hb, hw', rfl⟩ := skipKey_eq_ok_iff.mp hk
      obtain rfl := Except.ok.inj h
      refine ⟨t, rfl, fun w'' s' hw'' ht => ⟨_, .object hw hb hw' hw'', ?_⟩⟩
      rw [ht]
      simp

/-- Blanks may stand before a lead. -/
theorem LeadText.blanks_append {frame : Frame} {w l : List Char} (hw : Blanks w)
    (h : LeadText frame l) : LeadText frame (w ++ l) := by
  cases h with
  | array hl => exact .array (hw.append hl)
  | object hl hb hw' hw'' =>
    rw [← List.append_assoc]
    exact .object (hw.append hl) hb hw' hw''

/-- The blanks in front of an item can be left out. -/
theorem LeadText.skipBlanks {frame : Frame} {l v : List Char} (h : LeadText frame l)
    (hv : IsValue v) : ∃ l' c s', LeadText frame l' ∧ l' ++ v = c :: s' ∧ c ≠ frame.close ∧
      ∀ r, Json.skipBlanks (l ++ (v ++ r)) = c :: (s' ++ r) := by
  cases h with
  | array hw =>
    obtain ⟨c, s, rfl, hc⟩ := hv.exists_cons
    exact ⟨[], c, s, .array .nil, rfl, hc.ne_close .array, fun r => skipBlanks_append hw hc.1⟩
  | @object w b w' w'' hw hb hw' hw'' =>
    refine ⟨_, '"', _, .object .nil hb hw' hw'', rfl, by decide, fun r => ?_⟩
    rw [List.append_assoc, List.cons_append, skipBlanks_append hw (by decide)]
    simp

/-! ## The machine accepts what the grammar derives -/

theorem Scan.run_of_step {scan scan' : Scan} (h : scan.step = .ok (.pending scan')) :
    scan.run = scan'.run := by
  rw [Scan.run]
  split <;> simp_all

/-- The state in which the machine meets a part: what it expects, and the bracket around it. -/
def Part.scan (stack : List Frame) : Part → List Char → Scan
  | .value, s => ⟨.value, stack, s⟩
  | .items frame, s => ⟨.first, frame :: stack, s⟩
  | .more frame, s => ⟨.more, frame :: stack, s⟩

/-- Going on to an item leads to its value. -/
theorem run_of_item {frame : Frame} {l s : List Char} {scan : Scan} (hl : LeadText frame l)
    (stack : List Frame) (hstep : scan.step = frame.item stack (l ++ s)) :
    ∃ w, Blanks w ∧ scan.run = (Part.value.scan (frame :: stack) (w ++ s)).run := by
  obtain ⟨w, hw, hitem⟩ := Frame.item_eq_ok hl stack
  exact ⟨w, hw, Scan.run_of_step (hstep.trans (hitem s))⟩

theorem Frame.close_not_blank (frame : Frame) : isBlank frame.close = false := by
  cases frame <;> rfl

/-- **A text of the grammar takes the machine past itself.** Blanks may stand before it, and what
follows must not go on with a number. -/
theorem run_of_text {part : Part} {s : List Char} (h : part.Text s) :
    ∀ (stack : List Frame) (w r : List Char), Blanks w → Delimited r →
      (part.scan stack (w ++ (s ++ r))).run = Scan.run ⟨.more, stack, r⟩ := by
  induction h with
  | @scalar v hv =>
    intro stack w r hw hr
    obtain ⟨c, s, rfl, hc, hb, ho⟩ := hv.exists_cons
    refine Scan.run_of_step ?_
    rw [Part.scan, Scan.step, List.cons_append, skipBlanks_append hw hc.1]
    simp only [if_neg hb, if_neg ho, skipScalar_eq_ok hv hr]
  | @bracket frame s _ ih =>
    intro stack w r hw hr
    have hblank : isBlank frame.opening = false := by cases frame <;> rfl
    have hstep : (Part.value.scan stack (w ++ (frame.opening :: s ++ r))).step
        = .ok (.pending ⟨.first, frame :: stack, s ++ r⟩) := by
      rw [Part.scan, Scan.step, List.cons_append, skipBlanks_append hw hblank]
      cases frame <;> rfl
    rw [Scan.run_of_step hstep]
    exact ih stack [] r .nil hr
  | @empty frame w' hw' =>
    intro stack w r hw hr
    refine Scan.run_of_step ?_
    rw [Part.scan, Scan.step, List.append_assoc, List.singleton_append, ← List.append_assoc,
      skipBlanks_append (hw.append hw') frame.close_not_blank]
    exact if_pos rfl
  | @first frame l v s hl hv hs ihv ihs =>
    intro stack w r hw hr
    -- the machine looks past the blanks of the lead for the closing mark
    obtain ⟨l', c, s', hl', hcs, hc, hskip⟩ := (hl.blanks_append hw).skipBlanks hv
    have htext : w ++ (l ++ (v ++ s) ++ r) = (w ++ l) ++ (v ++ (s ++ r)) := by simp
    have hstep : ((Part.items frame).scan stack (w ++ (l ++ (v ++ s) ++ r))).step
        = frame.item stack (l' ++ (v ++ (s ++ r))) := by
      rw [htext, Part.scan, Scan.step, hskip (s ++ r), ← List.append_assoc l', hcs]
      exact if_neg hc
    obtain ⟨w', hw', hrun⟩ := run_of_item hl' stack hstep
    rw [hrun, ihv (frame :: stack) w' (s ++ r) hw' hs.delimited]
    exact ihs stack [] r .nil hr
  | @close frame w' hw' =>
    intro stack w r hw hr
    refine Scan.run_of_step ?_
    rw [Part.scan, Scan.step, List.append_assoc, List.singleton_append, ← List.append_assoc,
      skipBlanks_append (hw.append hw') frame.close_not_blank]
    exact if_pos rfl
  | @next frame w' l v s hw' hl hv hs ihv ihs =>
    intro stack w r hw hr
    have htext : w ++ (w' ++ ',' :: (l ++ (v ++ s)) ++ r)
        = (w ++ w') ++ ',' :: (l ++ (v ++ (s ++ r))) := by simp
    have hcomma : ',' ≠ frame.close := by cases frame <;> decide
    have hstep : ((Part.more frame).scan stack (w ++ (w' ++ ',' :: (l ++ (v ++ s)) ++ r))).step
        = frame.item stack (l ++ (v ++ (s ++ r))) := by
      rw [htext, Part.scan, Scan.step, skipBlanks_append (hw.append hw') (by decide)]
      exact if_neg hcomma
    obtain ⟨w'', hw'', hrun⟩ := run_of_item hl stack hstep
    rw [hrun, ihv (frame :: stack) w'' (s ++ r) hw'' hs.delimited]
    exact ihs stack [] r .nil hr

/-! ## The grammar derives what the machine accepts -/

/-- What open brackets demand of the text after a value, if `rest` is to be left over. -/
def Closes (rest : List Char) : List Frame → List Char → Prop
  | [], t => t = rest
  | frame :: stack, t => ∃ m t', (Part.more frame).Text m ∧ t = m ++ t' ∧ Closes rest stack t'

/-- What a state of the machine demands of its text, if `rest` is to be left over. -/
def Scan.Demands (rest : List Char) : Scan → Prop
  | ⟨.value, stack, s⟩ =>
    ∃ w v t, Blanks w ∧ IsValue v ∧ s = w ++ (v ++ t) ∧ Closes rest stack t
  | ⟨.first, frame :: stack, s⟩ =>
    ∃ i t, (Part.items frame).Text i ∧ s = i ++ t ∧ Closes rest stack t
  | ⟨.first, [], s⟩ => s = rest
  | ⟨.more, stack, s⟩ => Closes rest stack s

/-- The machine ends where nothing is demanded any more. -/
theorem Scan.demands_of_finished {scan : Scan} {rest : List Char}
    (h : scan.step = .ok (.finished rest)) : scan.Demands rest := by
  unfold Scan.step at h
  split at h
  · split at h
    · simp at h
    · split at h
      · simp at h
      · split at h
        · simp at h
        · split at h <;> simp at h
  · -- no bracket is open: the only state in which the machine may end
    next expect s hne =>
    obtain rfl := Progress.finished.inj (Except.ok.inj h)
    cases expect with
    | value => exact absurd rfl hne
    | first => rfl
    | more => rfl
  · split at h
    · simp at h
    · split at h
      · simp at h
      · obtain ⟨t, ht, -⟩ := Frame.exists_lead_of_item h
        cases ht
  · split at h
    · simp at h
    · split at h
      · simp at h
      · split at h
        · obtain ⟨t, ht, -⟩ := Frame.exists_lead_of_item h
          cases ht
        · simp at h

/-- The demands of the state after an item's lead, told from before the lead. -/
theorem Scan.demands_of_item {frame : Frame} {stack : List Frame} {s rest : List Char} {scan : Scan}
    (h : frame.item stack s = .ok (.pending scan)) (hd : scan.Demands rest) :
    ∃ l v m t, LeadText frame l ∧ IsValue v ∧ (Part.more frame).Text m ∧ s = l ++ (v ++ (m ++ t)) ∧
      Closes rest stack t := by
  obtain ⟨t, hscan, hlead⟩ := Frame.exists_lead_of_item h
  obtain rfl := Progress.pending.inj hscan
  -- the bracket of the item is the innermost one now, so its demands come first
  obtain ⟨w, v, t', hw, hv, ht, m, t'', hm, ht', hclose⟩ := hd
  obtain ⟨l, hl, hs⟩ := hlead w (v ++ t') hw ht
  exact ⟨l, v, m, t'', hl, hv, hm, by rw [hs, ht'], hclose⟩

/-- A step of the machine passes over what its state demands. -/
theorem Scan.demands_of_pending {scan scan' : Scan} {rest : List Char}
    (h : scan.step = .ok (.pending scan')) (hd : scan'.Demands rest) : scan.Demands rest := by
  unfold Scan.step at h
  split at h
  · next stack s =>
    split at h
    · simp at h
    · next c s' hb =>
      obtain ⟨w, hw, rfl⟩ := exists_blanks_of_skipBlanks hb
      split at h
      · next hc =>
        obtain rfl := Progress.pending.inj (Except.ok.inj h)
        obtain ⟨i, t, hi, rfl, hclose⟩ := hd
        exact ⟨w, '[' :: i, t, hw, @Part.Text.bracket .array i hi, by rw [hc]; rfl, hclose⟩
      · split at h
        · next hc =>
          obtain rfl := Progress.pending.inj (Except.ok.inj h)
          obtain ⟨i, t, hi, rfl, hclose⟩ := hd
          exact ⟨w, '{' :: i, t, hw, @Part.Text.bracket .object i hi, by rw [hc]; rfl, hclose⟩
        · split at h
          · simp at h
          · next s'' hs =>
            obtain rfl := Progress.pending.inj (Except.ok.inj h)
            obtain ⟨t, ht, rfl⟩ := exists_scalar_of_skipScalar hs
            exact ⟨w, c :: t, s'', hw, .scalar ht, rfl, hd⟩
  · simp at h
  · next frame stack s =>
    split at h
    · simp at h
    · next c s' hb =>
      obtain ⟨w, hw, rfl⟩ := exists_blanks_of_skipBlanks hb
      split at h
      · next hc =>
        obtain rfl := Progress.pending.inj (Except.ok.inj h)
        exact ⟨w ++ [frame.close], s', .empty hw, by rw [hc]; simp, hd⟩
      · obtain ⟨l, v, m, t, hl, hv, hm, hs, hclose⟩ := Scan.demands_of_item h hd
        exact ⟨_, t, .first (hl.blanks_append hw) hv hm, by rw [hs]; simp, hclose⟩
  · next frame stack s =>
    split at h
    · simp at h
    · next c s' hb =>
      obtain ⟨w, hw, rfl⟩ := exists_blanks_of_skipBlanks hb
      split at h
      · next hc =>
        obtain rfl := Progress.pending.inj (Except.ok.inj h)
        exact ⟨w ++ [frame.close], s', .close hw, by rw [hc]; simp, hd⟩
      · split at h
        · next hc =>
          obtain ⟨l, v, m, t, hl, hv, hm, hs, hclose⟩ := Scan.demands_of_item h hd
          exact ⟨_, t, .next hw hl hv hm, by rw [hc, hs]; simp, hclose⟩
        · simp at h

/-- **A run that ends has passed over what its first state demands.** -/
theorem Scan.demands_of_run {scan : Scan} {rest : List Char} (h : scan.run = .ok rest) :
    scan.Demands rest := by
  induction hn : scan.size using Nat.strongRecOn generalizing scan with
  | _ n ih =>
    rw [Scan.run] at h
    split at h
    · simp at h
    · next hs =>
      obtain rfl := Except.ok.inj h
      exact Scan.demands_of_finished hs
    · next hs =>
      have hlt := Scan.step_size hs
      exact Scan.demands_of_pending hs (ih _ (by omega) h rfl)

/-! ## Whole values -/

/-- **A value is passed over up to where it ends.** -/
theorem skipValue_eq_ok {w v r : List Char} (hw : Blanks w) (hv : IsValue v) (hr : Delimited r) :
    skipValue (w ++ (v ++ r)) = .ok r := by
  have hend : Scan.run ⟨.more, [], r⟩ = .ok r := by
    rw [Scan.run]
    rfl
  exact (run_of_text hv [] w r hw hr).trans hend

/-- **What is passed over as a value is one.** -/
theorem exists_value_of_skipValue {s r : List Char} (h : skipValue s = .ok r) :
    ∃ w v, Blanks w ∧ IsValue v ∧ s = w ++ (v ++ r) := by
  obtain ⟨w, v, t, hw, hv, hs, rfl⟩ := Scan.demands_of_run h
  exact ⟨w, v, hw, hv, hs⟩

end UserDirectory.Json
