import Mathlib.Data.Finset.Card
import UserDirectory.Proofs.Steps
import UserDirectory.Store

/-!
# Operations on a store

A store is used by four operations: a user is taken in, a user is looked up, the users are counted,
and it is asked whether there are none. What they give in the course of a sequence is told here from
what was taken in before, without a store: the record that came last under an id, and how many
different ids there were.

One invariant (`Store.Holds`) carries all of it: the records of a store, with no id among them
twice, are the last ones that came in under their ids. Taking a user in keeps it (`Holds.put`), and
so does every operation (`Holds.perform`).
-/

namespace UserDirectory

/-- An operation on a store. -/
inductive Operation where
  | insert (fresh : Fresh) (user : User)
  | find (id : String)
  | size
  | isEmpty

namespace Operation

/-- What an operation gives. -/
inductive Result where
  | id (id : String)
  | user (user : User)
  | count (n : Nat)
  | truth (b : Bool)
  deriving DecidableEq

/-- The id that a user is taken in under: its own, or else the fresh one. -/
def idOf (fresh : Fresh) (user : User) : String := if user.id = "" then fresh.id else user.id

/-- The record that is made of a user: the user itself, or else one with its name and its email,
the fresh id and the current time. -/
def recordOf (fresh : Fresh) (user : User) : User :=
  if user.id = "" then ⟨fresh.id, user.name, user.email, fresh.now⟩ else user

/-- The record that an operation brings in, with its id. -/
def brings? : Operation → Option (String × User)
  | .insert fresh user => some (idOf fresh user, recordOf fresh user)
  | .find _ | .size | .isEmpty => none

/-- The records that operations bring in, with their ids. -/
def brought (operations : List Operation) : List (String × User) := operations.filterMap brings?

/-- The ids that records are brought in under. -/
def ids (operations : List Operation) : List String := (brought operations).map Prod.fst

/-- The record that is brought in last under an id. -/
def latest? (operations : List Operation) (x : String) : Option User :=
  (brought operations).reverse.lookup x

/-- What an operation gives after others, told from what those brought in. -/
def expected (before : List Operation) : Operation → Result
  | .insert fresh user => .id (idOf fresh user)
  | .find x => .user ((latest? before x).getD .blank)
  | .size => .count (ids before).toFinset.card
  | .isEmpty => .truth (ids before).isEmpty

end Operation

namespace Store

/-- Performs an operation. -/
def perform (s : Store) : Operation → Operation.Result × Store
  | .insert fresh user => let (id, s) := s.insert fresh user; (.id id, s)
  | .find x => (.user (s.find x), s)
  | .size => (.count s.size, s)
  | .isEmpty => (.truth s.isEmpty, s)

/-- Performs operations one after the other. -/
def performAll (s : Store) (operations : List Operation) : List Operation.Result × Store :=
  stepAll perform s operations

/-- The user that is put takes the place of the one under its id. -/
theorem nodup_put {s : Store} (h : (s.records.map Prod.fst).Nodup) (u : User) :
    ((s.put u).records.map Prod.fst).Nodup := by
  have hkept : ((s.records.filter fun r => r.1 ≠ u.id).map Prod.fst).Nodup :=
    h.sublist (List.filter_sublist.map Prod.fst)
  refine List.nodup_cons.mpr ⟨?_, hkept⟩
  intro hmem
  obtain ⟨r, hr, hid⟩ := List.mem_map.mp hmem
  exact of_decide_eq_true (List.mem_filter.mp hr).2 hid

/-- The records of the store are the last ones that were brought in under their ids. -/
structure Holds (s : Store) (brought : List (String × User)) : Prop where
  find?_eq : ∀ x, s.find? x = brought.reverse.lookup x
  nodup : (s.records.map Prod.fst).Nodup
  mem_ids : ∀ x, x ∈ s.records.map Prod.fst ↔ x ∈ brought.map Prod.fst

theorem holds_empty : empty.Holds [] where
  find?_eq _ := rfl
  nodup := List.nodup_nil
  mem_ids _ := Iff.rfl

namespace Holds

variable {s : Store} {brought : List (String × User)}

theorem put (h : s.Holds brought) (u : User) : (s.put u).Holds (brought ++ [(u.id, u)]) where
  find?_eq x := by
    rw [find?_put, h.find?_eq, List.reverse_append, List.reverse_singleton, List.singleton_append,
      List.lookup_cons]
    by_cases hx : x = u.id
    · rw [if_pos hx, beq_iff_eq.mpr hx]
    · rw [if_neg hx, beq_eq_false_iff_ne.mpr hx]
  nodup := nodup_put h.nodup u
  mem_ids x := by
    have hfilter : x ∈ (s.records.filter fun r => r.1 ≠ u.id).map Prod.fst ↔
        x ∈ s.records.map Prod.fst ∧ x ≠ u.id := by
      simp only [List.mem_map, List.mem_filter, decide_eq_true_eq]
      constructor
      · rintro ⟨r, ⟨hr, hne⟩, rfl⟩
        exact ⟨⟨r, hr, rfl⟩, hne⟩
      · rintro ⟨⟨r, hr, rfl⟩, hne⟩
        exact ⟨r, ⟨hr, hne⟩, rfl⟩
    rw [Store.put, List.map_cons, List.mem_cons, hfilter, h.mem_ids, List.map_append,
      List.mem_append, List.map_singleton, List.mem_singleton]
    by_cases hx : x = u.id
    · simp [hx]
    · simp [hx]

/-- The users are counted by their ids. -/
theorem size_eq (h : s.Holds brought) : s.size = (brought.map Prod.fst).toFinset.card := by
  have hids : (s.records.map Prod.fst).toFinset = (brought.map Prod.fst).toFinset := by
    ext x
    rw [List.mem_toFinset, List.mem_toFinset, h.mem_ids]
  rw [← hids, List.toFinset_card_of_nodup h.nodup, List.length_map, size]

theorem isEmpty_eq (h : s.Holds brought) : s.isEmpty = (brought.map Prod.fst).isEmpty := by
  rw [Store.isEmpty, h.size_eq]
  cases brought with
  | nil => rfl
  | cons r brought => simp

end Holds

end Store

/-! ## Runs of operations -/

namespace Operation

theorem id_recordOf (fresh : Fresh) (user : User) :
    (recordOf fresh user).id = idOf fresh user := by
  unfold recordOf idOf
  split
  · rfl
  · rfl

theorem brought_concat (before : List Operation) (op : Operation) :
    brought (before ++ [op]) = brought before ++ op.brings?.toList := by
  unfold brought
  rw [List.filterMap_append]
  cases op <;> rfl

theorem ids_concat_insert (before : List Operation) (fresh : Fresh) (user : User) :
    ids (before ++ [.insert fresh user]) = ids before ++ [idOf fresh user] := by
  rw [ids, brought_concat, List.map_append]
  rfl

/-- Taking a user in does not change what was brought in under other ids. -/
theorem latest?_concat_insert_of_ne (before : List Operation) {fresh : Fresh} {user : User}
    {x : String} (hx : x ≠ idOf fresh user) :
    latest? (before ++ [.insert fresh user]) x = latest? before x := by
  rw [latest?, brought_concat, List.reverse_append]
  show List.lookup x ((idOf fresh user, recordOf fresh user) :: (brought before).reverse) = _
  rw [List.lookup_cons, beq_eq_false_iff_ne.mpr hx]
  rfl

end Operation

namespace Store

/-- An operation gives what is expected after those before it, and the store holds what was brought
in with it. -/
theorem Holds.perform {s : Store} {before : List Operation} (h : s.Holds (Operation.brought before))
    (op : Operation) :
    (s.perform op).1 = op.expected before ∧
      (s.perform op).2.Holds (Operation.brought (before ++ [op])) := by
  rw [Operation.brought_concat]
  cases op with
  | insert fresh user =>
    have hid := Operation.id_recordOf fresh user
    refine ⟨congrArg Operation.Result.id hid, ?_⟩
    have hput := h.put (Operation.recordOf fresh user)
    rw [hid] at hput
    exact hput
  | find x =>
    rw [Operation.brings?, Option.toList_none, List.append_nil]
    refine ⟨congrArg Operation.Result.user ?_, h⟩
    rw [find, h.find?_eq]
    rfl
  | size =>
    rw [Operation.brings?, Option.toList_none, List.append_nil]
    exact ⟨congrArg Operation.Result.count h.size_eq, h⟩
  | isEmpty =>
    rw [Operation.brings?, Option.toList_none, List.append_nil]
    exact ⟨congrArg Operation.Result.truth h.isEmpty_eq, h⟩

theorem holds_performAll (operations : List Operation) :
    (empty.performAll operations).2.Holds (Operation.brought operations) :=
  stepAll_induction perform (fun before s => s.Holds (Operation.brought before)) holds_empty
    (fun _ _ op h => (h.perform op).2) operations

theorem find_performAll (operations : List Operation) (x : String) :
    (empty.performAll operations).2.find x = (Operation.latest? operations x).getD .blank := by
  rw [find, (holds_performAll operations).find?_eq]
  rfl

theorem size_performAll (operations : List Operation) :
    (empty.performAll operations).2.size = (Operation.ids operations).toFinset.card :=
  (holds_performAll operations).size_eq

/-- Taking a user in changes what is found under its id only. -/
theorem find_performAll_insert_of_ne (before : List Operation) {fresh : Fresh} {user : User}
    {x : String} (hx : x ≠ Operation.idOf fresh user) :
    (empty.performAll (before ++ [.insert fresh user])).2.find x
      = (empty.performAll before).2.find x := by
  rw [find_performAll, find_performAll, Operation.latest?_concat_insert_of_ne before hx]

/-- A user under a new id is one more. -/
theorem size_performAll_insert_of_notMem (before : List Operation) {fresh : Fresh} {user : User}
    (hid : Operation.idOf fresh user ∉ Operation.ids before) :
    (empty.performAll (before ++ [.insert fresh user])).2.size
      = (empty.performAll before).2.size + 1 := by
  have hnew : (Operation.ids before ++ [Operation.idOf fresh user]).toFinset
      = Insert.insert (Operation.idOf fresh user) (Operation.ids before).toFinset := by
    ext x
    simp
  rw [size_performAll, size_performAll, Operation.ids_concat_insert, hnew,
    Finset.card_insert_of_notMem (by rwa [List.mem_toFinset])]

end Store

/-- **The last write wins.** In the course of any operations on a new store, each of them gives what
is told from those before it: a user is taken in under its own id or the fresh one, the record that
came last is found under an id and the blank user if none came, and the users are as many as the
different ids. Taking a user in changes what is found under no other id; and if the user has no id
and the fresh one is not in use, there is one user more and everything under an id in use stays. -/
theorem store_last_write_wins (before : List Operation) (op : Operation) (after : List Operation) :
    (Store.empty.performAll (before ++ op :: after)).1[before.length]?
      = some (op.expected before) ∧
    (∀ fresh user, op = .insert fresh user → ∀ x, x ≠ Operation.idOf fresh user →
      (Store.empty.performAll (before ++ [op])).2.find x
        = (Store.empty.performAll before).2.find x) ∧
    (∀ fresh user, op = .insert fresh user → user.id = "" → fresh.id ∉ Operation.ids before →
      (Store.empty.performAll (before ++ [op])).2.size
        = (Store.empty.performAll before).2.size + 1 ∧
      ∀ x ∈ Operation.ids before, (Store.empty.performAll (before ++ [op])).2.find x
        = (Store.empty.performAll before).2.find x) := by
  refine ⟨?_, ?_, ?_⟩
  · rw [Store.performAll, getElem?_stepAll]
    exact congrArg some ((Store.holds_performAll before).perform op).1
  · rintro fresh user rfl x hx
    exact Store.find_performAll_insert_of_ne before hx
  · rintro fresh user rfl huser hfresh
    have hid : Operation.idOf fresh user = fresh.id := if_pos huser
    rw [← hid] at hfresh
    refine ⟨Store.size_performAll_insert_of_notMem before hfresh, ?_⟩
    intro x hx
    refine Store.find_performAll_insert_of_ne before ?_
    rintro rfl
    exact hfresh hx

/-- A user without an id comes in beside one whose record was replaced. -/
theorem fresh_user_beside_replaced :
    "f" ∉ Operation.ids [.insert ⟨"e", .epoch⟩ ⟨"a", "first", "", .epoch⟩,
      .insert ⟨"e", .epoch⟩ ⟨"a", "second", "", .epoch⟩] ∧
    (Store.empty.performAll [.insert ⟨"e", .epoch⟩ ⟨"a", "first", "", .epoch⟩,
      .insert ⟨"e", .epoch⟩ ⟨"a", "second", "", .epoch⟩, .insert ⟨"f", .epoch⟩ .blank,
      .size]).1[2]? = some (.id "f") ∧
    (Store.empty.performAll [.insert ⟨"e", .epoch⟩ ⟨"a", "first", "", .epoch⟩,
      .insert ⟨"e", .epoch⟩ ⟨"a", "second", "", .epoch⟩, .insert ⟨"f", .epoch⟩ .blank]).2.size
      = (Store.empty.performAll [.insert ⟨"e", .epoch⟩ ⟨"a", "first", "", .epoch⟩,
        .insert ⟨"e", .epoch⟩ ⟨"a", "second", "", .epoch⟩]).2.size + 1 := by
  obtain ⟨hresult, -, hsize⟩ := store_last_write_wins
    [.insert ⟨"e", .epoch⟩ ⟨"a", "first", "", .epoch⟩,
      .insert ⟨"e", .epoch⟩ ⟨"a", "second", "", .epoch⟩] (.insert ⟨"f", .epoch⟩ .blank) [.size]
  exact ⟨by decide, hresult, (hsize _ _ rfl rfl (by decide)).1⟩

end UserDirectory
