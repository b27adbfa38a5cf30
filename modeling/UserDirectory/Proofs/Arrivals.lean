import UserDirectory.Proofs.Hits

/-!
# The order of arrival

Users who arrive with ids of their own may arrive in another order, as long as those with one id
stay in theirs: under an id the last of them is found, and which that is only they decide
(`Store.find?_takeAll`).

That stores differ in the order of their records cannot be told from outside. Operations see the
user under every id and how many there are, and the second follows from the first as long as no id
is used twice. So stores that find the same (`Store.Agrees`) go on giving the same, whatever is done
to both of them (`Store.Agrees.indistinct`).
-/

namespace UserDirectory

/-- Arrivals in another order: the same users, and those of one id in the order they had. -/
structure Rearranged (users users' : List User) : Prop where
  perm : users.Perm users'
  order : ∀ id, users.filter (·.id = id) = users'.filter (·.id = id)

/-- Neighbours with different ids may change places. -/
theorem Rearranged.swap (before : List User) {u v : User} (h : u.id ≠ v.id) (after : List User) :
    Rearranged (before ++ u :: v :: after) (before ++ v :: u :: after) where
  perm := (List.Perm.swap v u after).append_left before
  order id := by
    rw [List.filter_append, List.filter_append]
    by_cases hu : u.id = id
    · have hv : v.id ≠ id := fun hv => h (hu.trans hv.symm)
      simp [hu, hv]
    · simp [List.filter_cons, hu]

namespace Store

/-- Takes users in one after the other, each with what is given to one who has no id. -/
def takeAll (s : Store) (arrivals : List (Fresh × User)) : Store :=
  (s.performAll (arrivals.map fun a => .insert a.1 a.2)).2

/-- What operations give does not tell the stores apart. -/
def Indistinct (s t : Store) : Prop :=
  ∀ operations, (s.performAll operations).1 = (t.performAll operations).1

/-! ## Stores that find the same -/

/-- The stores find the same under every id, and neither uses an id twice. -/
structure Agrees (s t : Store) : Prop where
  find?_eq : ∀ x, s.find? x = t.find? x
  nodup_left : s.ids.Nodup
  nodup_right : t.ids.Nodup

namespace Agrees

variable {s t : Store}

theorem find_eq (h : s.Agrees t) (x : String) : s.find x = t.find x := by
  rw [find, find, h.find?_eq]

theorem size_eq (h : s.Agrees t) : s.size = t.size := by
  have hids : s.ids.Perm t.ids := by
    rw [List.perm_ext_iff_of_nodup h.nodup_left h.nodup_right]
    intro x
    rw [← not_iff_not, ← find?_eq_none_iff, ← find?_eq_none_iff, h.find?_eq]
  simpa [ids, size] using hids.length_eq

theorem isEmpty_eq (h : s.Agrees t) : s.isEmpty = t.isEmpty := by
  rw [Store.isEmpty, Store.isEmpty, h.size_eq]

theorem put (h : s.Agrees t) (u : User) : (s.put u).Agrees (t.put u) where
  find?_eq x := by rw [find?_put, find?_put, h.find?_eq]
  nodup_left := nodup_put h.nodup_left u
  nodup_right := nodup_put h.nodup_right u

/-- An operation gives the same on both stores, and they go on finding the same. -/
theorem perform (h : s.Agrees t) (op : Operation) :
    (s.perform op).1 = (t.perform op).1 ∧ (s.perform op).2.Agrees (t.perform op).2 := by
  cases op with
  | insert fresh user => exact ⟨rfl, h.put (user.identified fresh)⟩
  | find x => exact ⟨congrArg Operation.Result.user (h.find_eq x), h⟩
  | size => exact ⟨congrArg Operation.Result.count h.size_eq, h⟩
  | isEmpty => exact ⟨congrArg Operation.Result.truth h.isEmpty_eq, h⟩

/-- **Stores that find the same are not told apart by any operations.** -/
theorem indistinct (h : s.Agrees t) : s.Indistinct t :=
  fun operations => stepAll_eq_of_related Store.perform Agrees (fun _ _ op h => h.perform op) h
    operations

end Agrees

/-! ## Arrivals -/

theorem takeAll_cons (s : Store) (a : Fresh × User) (arrivals : List (Fresh × User)) :
    s.takeAll (a :: arrivals) = (s.put (a.2.identified a.1)).takeAll arrivals := rfl

theorem nodup_takeAll {s : Store} (h : s.ids.Nodup) (arrivals : List (Fresh × User)) :
    (s.takeAll arrivals).ids.Nodup := by
  induction arrivals generalizing s with
  | nil => exact h
  | cons a arrivals ih =>
    rw [takeAll_cons]
    exact ih (nodup_put h (a.2.identified a.1))

theorem identified_of_id_ne {u : User} (h : u.id ≠ "") (fresh : Fresh) : u.identified fresh = u :=
  if_neg h

/-- **The last of the users who arrived with an id is found under it**, and else who was found
before. -/
theorem find?_takeAll (s : Store) {arrivals : List (Fresh × User)}
    (hids : ∀ a ∈ arrivals, a.2.id ≠ "") (x : String) :
    (s.takeAll arrivals).find? x
      = ((arrivals.map Prod.snd).filter (·.id = x)).getLast?.or (s.find? x) := by
  induction arrivals generalizing s with
  | nil => rfl
  | cons a arrivals ih =>
    rw [List.forall_mem_cons] at hids
    rw [takeAll_cons, identified_of_id_ne hids.1, ih _ hids.2, find?_put, List.map_cons]
    by_cases hx : x = a.2.id
    · rw [if_pos hx, List.filter_cons_of_pos (by simp [hx]), List.getLast?_cons, Option.some_or]
      cases ((arrivals.map Prod.snd).filter (·.id = x)).getLast? with
      | none => rfl
      | some u => rfl
    · rw [if_neg hx, List.filter_cons_of_neg (by simpa using Ne.symm hx)]

/-- Among users with one id the order does count. -/
example : (empty.takeAll [(⟨"e", .epoch⟩, ⟨"a", "first", "", .epoch⟩),
      (⟨"e", .epoch⟩, ⟨"a", "second", "", .epoch⟩)]).find "a"
    ≠ (empty.takeAll [(⟨"e", .epoch⟩, ⟨"a", "second", "", .epoch⟩),
      (⟨"e", .epoch⟩, ⟨"a", "first", "", .epoch⟩)]).find "a" := by decide

/-- Stores agree after the same users in another order. -/
theorem agrees_takeAll {s : Store} (h : s.ids.Nodup) {arrivals arrivals' : List (Fresh × User)}
    (hids : ∀ a ∈ arrivals, a.2.id ≠ "")
    (horder : Rearranged (arrivals.map Prod.snd) (arrivals'.map Prod.snd)) :
    (s.takeAll arrivals).Agrees (s.takeAll arrivals') where
  find?_eq x := by
    have hids' : ∀ a ∈ arrivals', a.2.id ≠ "" := by
      intro a ha
      have hmem := horder.perm.mem_iff.mpr (List.mem_map_of_mem ha)
      obtain ⟨b, hb, hba⟩ := List.mem_map.mp hmem
      rw [← hba]
      exact hids b hb
    rw [find?_takeAll s hids, find?_takeAll s hids', horder.order]
  nodup_left := nodup_takeAll h arrivals
  nodup_right := nodup_takeAll h arrivals'

/-! ## The same user once more -/

/-- Under an id in use somebody is found. -/
theorem find?_of_mem_ids {s : Store} {x : String} (hx : x ∈ s.ids) : s.find? x = some (s.find x) := by
  cases hfind : s.find? x with
  | none => exact absurd hx (find?_eq_none_iff.mp hfind)
  | some u => rw [find, hfind, Option.getD_some]

/-- Taking in a user who is found already gives the id in use, and a store that finds the same. -/
theorem Sound.insert_find {s : Store} (h : s.Sound) {x : String} (hx : x ∈ s.ids) (fresh : Fresh) :
    (s.insert fresh (s.find x)).1 = x ∧ (s.insert fresh (s.find x)).2.Agrees s := by
  have hid : (s.find x).id = x := h.id_find hx
  have hne : (s.find x).id ≠ "" := by
    rw [hid]
    rintro rfl
    exact h.empty_notMem hx
  rw [insert, identified_of_id_ne hne]
  refine ⟨hid, ?_, nodup_put h.nodup _, h.nodup⟩
  intro y
  rw [find?_put, hid]
  split
  · next hy => rw [hy, find?_of_mem_ids hx]
  · rfl

end Store

/-- **The order of arrival does not matter, but for users with one id.** Users with ids of their own
who come into a store in another order, those of one id in the order they had, leave stores that
find the same under every id, count the same users and are not told apart by anything that is done
to them. Nor is a store told from itself after a user who is found in it came in once more. -/
theorem order_of_arrival_cannot_be_told {s : Store} (h : s.Reachable) :
    (∀ arrivals arrivals' : List (Fresh × User), (∀ a ∈ arrivals, a.2.id ≠ "") →
      Rearranged (arrivals.map Prod.snd) (arrivals'.map Prod.snd) →
      (∀ x, (s.takeAll arrivals).find x = (s.takeAll arrivals').find x) ∧
      (s.takeAll arrivals).size = (s.takeAll arrivals').size ∧
      (s.takeAll arrivals).isEmpty = (s.takeAll arrivals').isEmpty ∧
      (s.takeAll arrivals).Indistinct (s.takeAll arrivals')) ∧
    (∀ x ∈ s.ids, ∀ fresh, (s.insert fresh (s.find x)).1 = x ∧
      (s.insert fresh (s.find x)).2.Indistinct s) := by
  constructor
  · intro arrivals arrivals' hids horder
    have hagrees := Store.agrees_takeAll h.sound.nodup hids horder
    exact ⟨hagrees.find_eq, hagrees.size_eq, hagrees.isEmpty_eq, hagrees.indistinct⟩
  · intro x hx fresh
    obtain ⟨hid, hagrees⟩ := h.sound.insert_find hx fresh
    exact ⟨hid, hagrees.indistinct⟩

/-- One user takes the place of another before or after a third comes in, and once more. -/
theorem replacement_overtakes_arrival :
    (Store.empty.insert ⟨"f", .epoch⟩ .blank).2.Reachable ∧
    Rearranged [⟨"a", "first", "", .epoch⟩, ⟨"f", "other", "", .epoch⟩,
        ⟨"a", "second", "", .epoch⟩]
      [⟨"f", "other", "", .epoch⟩, ⟨"a", "first", "", .epoch⟩, ⟨"a", "second", "", .epoch⟩] ∧
    ((Store.empty.insert ⟨"f", .epoch⟩ .blank).2.takeAll [
        (⟨"g", .epoch⟩, ⟨"a", "first", "", .epoch⟩), (⟨"g", .epoch⟩, ⟨"f", "other", "", .epoch⟩),
        (⟨"g", .epoch⟩, ⟨"a", "second", "", .epoch⟩)]).Indistinct
      ((Store.empty.insert ⟨"f", .epoch⟩ .blank).2.takeAll [
        (⟨"h", .epoch⟩, ⟨"f", "other", "", .epoch⟩), (⟨"h", .epoch⟩, ⟨"a", "first", "", .epoch⟩),
        (⟨"h", .epoch⟩, ⟨"a", "second", "", .epoch⟩)]) ∧
    "f" ∈ (Store.empty.insert ⟨"f", .epoch⟩ .blank).2.ids ∧
    ((Store.empty.insert ⟨"f", .epoch⟩ .blank).2.insert ⟨"g", .epoch⟩
        ((Store.empty.insert ⟨"f", .epoch⟩ .blank).2.find "f")).2.Indistinct
      (Store.empty.insert ⟨"f", .epoch⟩ .blank).2 := by
  have hreachable : (Store.empty.insert ⟨"f", .epoch⟩ .blank).2.Reachable :=
    .insert .blank .empty (by decide)
  have horder : Rearranged [⟨"a", "first", "", .epoch⟩, ⟨"f", "other", "", .epoch⟩,
      ⟨"a", "second", "", .epoch⟩] [⟨"f", "other", "", .epoch⟩, ⟨"a", "first", "", .epoch⟩,
      ⟨"a", "second", "", .epoch⟩] := .swap [] (by decide) _
  obtain ⟨harrivals, hagain⟩ := order_of_arrival_cannot_be_told hreachable
  obtain ⟨-, -, -, hindistinct⟩ := harrivals [
      (⟨"g", .epoch⟩, ⟨"a", "first", "", .epoch⟩), (⟨"g", .epoch⟩, ⟨"f", "other", "", .epoch⟩),
      (⟨"g", .epoch⟩, ⟨"a", "second", "", .epoch⟩)] [
      (⟨"h", .epoch⟩, ⟨"f", "other", "", .epoch⟩), (⟨"h", .epoch⟩, ⟨"a", "first", "", .epoch⟩),
      (⟨"h", .epoch⟩, ⟨"a", "second", "", .epoch⟩)] (by decide) horder
  exact ⟨hreachable, horder, hindistinct, by decide, (hagain "f" (by decide) _).2⟩

end UserDirectory
