import UserDirectory.User

/-!
# The store

The users of the directory, each under its id. The last user put under an id is the one that is
found there, and an id that nothing was put under finds the blank user.

A user who comes without an id gets a fresh one, and the current time as the time of creation. Both
are given from outside (`Fresh`), so that the store is a pure function of what happened to it.
-/

namespace UserDirectory

/-- What a user without an id is given. -/
structure Fresh where
  id : String
  now : Instant

/-- The user as it is kept: as it is, or with a fresh id and the current time if it has no id. -/
def User.identified (fresh : Fresh) (u : User) : User :=
  if u.id = "" then { u with id := fresh.id, createdAt := fresh.now } else u

/-- Users under their ids, at most one under each. -/
structure Store where
  records : List (String × User)

namespace Store

/-- The store that holds nobody. -/
def empty : Store := ⟨[]⟩

/-- The user under an id, if there is one. -/
def find? (s : Store) (id : String) : Option User := s.records.lookup id

/-- The user under an id, or the blank one. -/
def find (s : Store) (id : String) : User := (s.find? id).getD .blank

/-- Puts a user under its own id, in place of the one that was there. -/
def put (s : Store) (u : User) : Store :=
  ⟨(u.id, u) :: s.records.filter fun r => r.1 ≠ u.id⟩

/-- Takes a user in and gives the id it is kept under. -/
def insert (s : Store) (fresh : Fresh) (u : User) : String × Store :=
  ((u.identified fresh).id, s.put (u.identified fresh))

/-- How many users there are. -/
def size (s : Store) : Nat := s.records.length

/-- Whether there is nobody. -/
def isEmpty (s : Store) : Bool := s.size = 0

/-! ## What is found -/

theorem lookup_filter_ne (records : List (String × User)) {x y : String} (h : x ≠ y) :
    (records.filter fun r => r.1 ≠ y).lookup x = records.lookup x := by
  induction records with
  | nil => rfl
  | cons r records ih =>
    by_cases hr : r.1 = y
    · have hx : (x == r.1) = false := by simp [hr, h]
      rw [List.filter_cons_of_neg (by simp [hr]), ih, List.lookup_cons, hx]
    · rw [List.filter_cons_of_pos (by simp [hr]), List.lookup_cons, List.lookup_cons, ih]

/-- Putting a user changes what is found under its id, and nothing else. -/
theorem find?_put (s : Store) (u : User) (x : String) :
    (s.put u).find? x = if x = u.id then some u else s.find? x := by
  unfold put find?
  split
  · next h => simp [h]
  · next h =>
    have hx : (x == u.id) = false := by simp [h]
    rw [List.lookup_cons, hx]
    exact lookup_filter_ne s.records h

@[simp] theorem find?_empty (x : String) : empty.find? x = none := rfl

end Store

end UserDirectory
