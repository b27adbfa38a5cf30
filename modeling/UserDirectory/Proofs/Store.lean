import UserDirectory.Application

/-!
# What a run leaves in the store

Users come into the store by inserts alone, and the last user that came in under an id is the one
that is found there. A step changes what is found in this way only (`Store.find?_step`), and so does
a whole run (`Store.find?_run`).
-/

namespace UserDirectory

/-- The user that an event brings in, as it is kept. -/
def Event.inserted? : Event → Option User
  | .insert fresh user => some (user.identified fresh)
  | .request _ => none

/-- The last user that events bring in under an id. -/
def lastInserted (x : String) (events : List Event) : Option User :=
  (events.filterMap Event.inserted?).reverse.find? fun u => u.id = x

/-- A later user goes before an earlier one. -/
theorem lastInserted_cons (x : String) (event : Event) (events : List Event) :
    lastInserted x (event :: events)
      = (lastInserted x events).or (event.inserted?.filter fun u => u.id = x) := by
  unfold lastInserted
  cases hevent : event.inserted? with
  | none => rw [List.filterMap_cons_none hevent, Option.filter_none, Option.or_none]
  | some u =>
    rw [List.filterMap_cons_some hevent, List.reverse_cons, List.find?_append, List.find?_singleton]
    rfl

namespace Store

theorem find?_step (directory : Store → Option Directory) (s : Store) (event : Event) (x : String) :
    (s.step directory event).2.find? x
      = (event.inserted?.filter fun u => u.id = x).or (s.find? x) := by
  cases event with
  | request r => rfl
  | insert fresh user =>
    show (s.put (user.identified fresh)).find? x = _
    rw [find?_put, Event.inserted?, Option.filter_some]
    by_cases hx : x = (user.identified fresh).id
    · rw [if_pos hx, if_pos (decide_eq_true hx.symm), Option.some_or]
    · rw [if_neg hx, if_neg (by simpa using Ne.symm hx), Option.none_or]

/-- **The last user that came in under an id is found there**, and else what was there before. -/
theorem find?_run (directory : Store → Option Directory) (s : Store) (events : List Event)
    (x : String) :
    (s.run directory events).2.find? x = (lastInserted x events).or (s.find? x) := by
  induction events generalizing s with
  | nil => rfl
  | cons event events ih =>
    show ((s.step directory event).2.run directory events).2.find? x = _
    rw [ih, find?_step, lastInserted_cons, Option.or_assoc]

/-- What is found after a run from the beginning. -/
theorem find_run_empty (directory : Store → Option Directory) (events : List Event) (x : String) :
    (empty.run directory events).2.find x = (lastInserted x events).getD .blank := by
  rw [find, find?_run, find?_empty, Option.or_none]

end Store

end UserDirectory
