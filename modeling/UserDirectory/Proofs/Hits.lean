import UserDirectory.Proofs.Operations
import UserDirectory.Proofs.Records
import UserDirectory.Proofs.Routing

/-!
# Hits and misses

A miss shows as the blank user, with the status of a hit. That the two are never confused rests on
what every insert keeps (`Store.Sound`): a user is stored under its own id, and no id is empty. So a
user that is found has the id it was looked up by, and the blank user, whose id is empty, is found
for no id in use. Since different users have different texts, the body of a reply tells as much.
-/

namespace UserDirectory

theorem User.id_identified_ne {fresh : Fresh} (h : fresh.id ≠ "") (u : User) :
    (u.identified fresh).id ≠ "" := by
  unfold User.identified
  split
  · exact h
  · next hu => exact hu

namespace Store

/-! ## What inserts keep -/

/-- The ids that users are stored under. -/
def ids (s : Store) : List String := s.records.map Prod.fst

/-- Users are stored under their own ids, of which none is empty and none is used twice. -/
structure Sound (s : Store) : Prop where
  own_id : ∀ r ∈ s.records, r.2.id = r.1
  empty_notMem : "" ∉ s.ids
  nodup : s.ids.Nodup

/-- A store that inserts lead to, where fresh ids are not empty. -/
inductive Reachable : Store → Prop where
  | empty : Reachable .empty
  | insert {s : Store} {fresh : Fresh} (user : User) : Reachable s → fresh.id ≠ "" →
      Reachable (s.insert fresh user).2

theorem sound_empty : empty.Sound where
  own_id r hr := by cases hr
  empty_notMem h := by cases h
  nodup := List.nodup_nil

theorem Sound.put {s : Store} (h : s.Sound) {u : User} (hu : u.id ≠ "") : (s.put u).Sound where
  own_id r hr := by
    rcases List.mem_cons.mp hr with rfl | hr
    · rfl
    · exact h.own_id r (List.mem_filter.mp hr).1
  empty_notMem hmem := by
    rcases List.mem_cons.mp hmem with hid | hmem
    · exact hu hid.symm
    · obtain ⟨r, hr, hid⟩ := List.mem_map.mp hmem
      exact h.empty_notMem (hid ▸ List.mem_map_of_mem (List.mem_filter.mp hr).1)
  nodup := nodup_put h.nodup u

theorem Reachable.sound {s : Store} (h : s.Reachable) : s.Sound := by
  induction h with
  | empty => exact sound_empty
  | insert user _ hfresh ih => exact ih.put (user.id_identified_ne hfresh)

/-- Runs of the application lead from reachable stores to reachable ones. -/
theorem Reachable.run (directory : Store → Option Directory) {events : List Event}
    (hfresh : ∀ fresh user, .insert fresh user ∈ events → fresh.id ≠ "") {s : Store}
    (h : s.Reachable) : (s.run directory events).2.Reachable := by
  induction events generalizing s with
  | nil => exact h
  | cons event events ih =>
    have hrest := fun fresh user hmem => hfresh fresh user (List.mem_cons_of_mem event hmem)
    cases event with
    | request r => exact ih hrest h
    | insert fresh user => exact ih hrest (h.insert user (hfresh fresh user List.mem_cons_self))

/-! ## Lookups -/

theorem find?_eq_none_iff {s : Store} {x : String} : s.find? x = none ↔ x ∉ s.ids := by
  rw [find?, List.lookup_eq_none_iff, ids, List.mem_map]
  constructor
  · rintro h ⟨r, hr, rfl⟩
    exact absurd (h r hr) (by simp)
  · intro h r hr
    exact bne_iff_ne.mpr fun heq => h ⟨r, hr, heq.symm⟩

theorem find_of_notMem {s : Store} {x : String} (h : x ∉ s.ids) : s.find x = .blank := by
  rw [find, find?_eq_none_iff.mpr h]
  rfl

/-- A user that is found has the id it was looked up by. -/
theorem Sound.id_find {s : Store} (h : s.Sound) {x : String} (hx : x ∈ s.ids) :
    (s.find x).id = x := by
  cases hfind : s.find? x with
  | none => exact absurd hx (find?_eq_none_iff.mp hfind)
  | some u =>
    obtain ⟨before, after, hrecords, -⟩ := List.lookup_eq_some_iff.mp hfind
    rw [find, hfind]
    exact h.own_id (x, u) (by simp [hrecords])

/-- The blank user is found for the ids that are not in use, and for these only. -/
theorem Sound.find_eq_blank_iff {s : Store} (h : s.Sound) {x : String} :
    s.find x = .blank ↔ x ∉ s.ids := by
  constructor
  · intro hblank hx
    -- the id of the blank user is empty, and that one is not in use
    obtain rfl : "" = x := by
      rw [← h.id_find hx, hblank]
      rfl
    exact h.empty_notMem hx
  · exact find_of_notMem

end Store

/-! ## Replies -/

/-- A reply for which an id was looked up shows the user under that id. -/
theorem reply_of_asked {directory : Directory} {r : Request} {x : String}
    (h : (answer (some directory) r).asked = [x]) :
    (answer (some directory) r).reply = .json 200 (directory x).toJson := by
  unfold answer at h ⊢
  cases hroute : r.route with
  | user =>
    simp only [hroute] at h ⊢
    rw [← List.singleton_inj.mp h]
    rfl
  | health =>
    simp only [hroute] at h
    cases h
  | nowhere =>
    simp only [hroute] at h
    cases h

/-- Two lookups have one body if they find one user. -/
theorem body_eq_iff_of_asked {directory : Directory} {r r' : Request} {x y : String}
    (h : (answer (some directory) r).asked = [x])
    (h' : (answer (some directory) r').asked = [y]) :
    (answer (some directory) r).reply.body = (answer (some directory) r').reply.body ↔
      directory x = directory y := by
  rw [reply_of_asked h, reply_of_asked h']
  exact User.toJson_injective.eq_iff

/-- **A hit is never mistaken for a miss.** In a store that inserts lead to, users are stored under
their own ids, of which none is empty and none is used twice. The blank user is found exactly for
the ids that are not in use, the empty one among them, and for all others a user with that id. The
body of a reply is that of a miss exactly if the id is not in use. -/
theorem hit_never_mistaken_for_miss {s : Store} (h : s.Reachable) :
    ((∀ r ∈ s.records, r.2.id = r.1) ∧ "" ∉ s.ids ∧ s.ids.Nodup) ∧
    (∀ x, (s.find x = .blank ↔ x ∉ s.ids) ∧ (x ∈ s.ids → (s.find x).id = x)) ∧
    s.find "" = .blank ∧
    ∀ r r' x y, (answer s.directory r).asked = [x] → (answer s.directory r').asked = [y] →
      y ∉ s.ids →
      ((answer s.directory r).reply.body = (answer s.directory r').reply.body ↔ x ∉ s.ids) := by
  have hsound := h.sound
  refine ⟨⟨hsound.own_id, hsound.empty_notMem, hsound.nodup⟩,
    fun x => ⟨hsound.find_eq_blank_iff, hsound.id_find⟩,
    Store.find_of_notMem hsound.empty_notMem, ?_⟩
  intro r r' x y hr hr' hy
  rw [Store.directory] at hr hr' ⊢
  rw [body_eq_iff_of_asked hr hr', Store.find_of_notMem hy]
  exact hsound.find_eq_blank_iff

/-- A user who came without an id, a name and an email is told from a user who is not there. -/
theorem nameless_user_told_from_miss :
    (Store.empty.run Store.directory [.request ⟨"GET", ⟨"/", none⟩, [], ""⟩,
      .insert ⟨"f", .epoch⟩ .blank]).2.Reachable ∧
    (answer (Store.empty.run Store.directory [.request ⟨"GET", ⟨"/", none⟩, [], ""⟩,
        .insert ⟨"f", .epoch⟩ .blank]).2.directory ⟨"GET", ⟨"/users/f", none⟩, [], ""⟩).reply.body
      ≠ (answer (Store.empty.run Store.directory [.request ⟨"GET", ⟨"/", none⟩, [], ""⟩,
        .insert ⟨"f", .epoch⟩ .blank]).2.directory ⟨"GET", ⟨"/users/g", none⟩, [],
        ""⟩).reply.body := by
  have hfresh : ∀ fresh user, .insert fresh user ∈ ([.request ⟨"GET", ⟨"/", none⟩, [], ""⟩,
      .insert ⟨"f", .epoch⟩ .blank] : List Event) → fresh.id ≠ "" := by
    intro fresh user hmem
    simp only [List.mem_cons, List.not_mem_nil, or_false, reduceCtorEq, false_or,
      Event.insert.injEq] at hmem
    rw [hmem.1]
    decide
  have hreachable := Store.Reachable.empty.run Store.directory hfresh
  have hf : Request.AsksUser ⟨"GET", ⟨"/users/f", none⟩, [], ""⟩ usersSegment ['f'] :=
    ⟨rfl, Uri.Spelled.self _, by decide⟩
  have hg : Request.AsksUser ⟨"GET", ⟨"/users/g", none⟩, [], ""⟩ usersSegment ['g'] :=
    ⟨rfl, Uri.Spelled.self _, by decide⟩
  obtain ⟨-, -, -, hbody⟩ := hit_never_mistaken_for_miss hreachable
  refine ⟨hreachable, fun heq => ?_⟩
  have hmiss := (hbody _ _ "f" "g"
    (asked_of_route_eq_user (Request.route_eq_user_iff.mpr ⟨_, _, hf⟩) _)
    (asked_of_route_eq_user (Request.route_eq_user_iff.mpr ⟨_, _, hg⟩) _) (by decide)).mp heq
  exact hmiss (by decide)

end UserDirectory
