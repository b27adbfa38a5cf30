import UserDirectory.Proofs.Http.Target
import UserDirectory.Proofs.Steps
import UserDirectory.Proofs.Store

/-!
# Requests do not interfere

A request changes nothing that another request or a later lookup could tell. What a run leaves in
the store is what its inserts leave there, and an answer is decided by the inserts before it and by
the method and the raw path of the request. Two runs are compared throughout: they may differ in
their requests in any way, as long as their inserts agree.
-/

namespace UserDirectory

/-- Whether the event takes a user in. -/
def Event.isInsert : Event → Bool
  | .insert _ _ => true
  | .request _ => false

/-- The inserts among events. -/
def inserts (events : List Event) : List Event := events.filter Event.isInsert

/-! ## Answers -/

theorem Request.route_congr {r r' : Request} (hmethod : r.method = r'.method)
    (hpath : r.uri.path = r'.uri.path) : r.route = r'.route := by
  unfold Request.route Uri.matchPath
  rw [hmethod, hpath]

/-- An answer is decided by the method and the raw path. -/
theorem answer_congr (directory : Option Directory) {r r' : Request}
    (hmethod : r.method = r'.method) (hpath : r.uri.path = r'.uri.path) :
    answer directory r = answer directory r' := by
  have hshow : ∀ d, showUser d r = showUser d r' := by
    intro d
    unfold showUser
    rw [hpath]
  unfold answer
  simp only [Request.route_congr hmethod hpath, hshow]

theorem Request.uri_of_make {method target : String} {headers : List (String × String)}
    {body : String} {r : Request} (h : Request.make method target headers body = .ok r) :
    r.method = method ∧ Uri.parse? target = some r.uri := by
  unfold Request.make at h
  split at h
  · cases h
  · next uri huri =>
    split at h
    · cases h
      exact ⟨rfl, huri⟩
    · cases h

/-- Requests by one method whose targets differ after the path only are answered alike. -/
theorem answer_eq_of_make (directory : Option Directory) {method target target' : String}
    {headers headers' : List (String × String)} {body body' : String} {r r' : Request}
    (hr : Request.make method target headers body = .ok r)
    (hr' : Request.make method target' headers' body' = .ok r')
    (htarget : Uri.beforeQuery target.toList = Uri.beforeQuery target'.toList) :
    answer directory r = answer directory r' := by
  obtain ⟨hmethod, huri⟩ := Request.uri_of_make hr
  obtain ⟨hmethod', huri'⟩ := Request.uri_of_make hr'
  have hcut := Uri.parse?_beforeQuery huri
  rw [htarget, Uri.parse?_beforeQuery huri', Option.some.injEq, Uri.mk.injEq] at hcut
  exact answer_congr directory (hmethod.trans hmethod'.symm) hcut.1.symm

/-! ## Runs -/

namespace Store

variable (directory : Store → Option Directory)

theorem run_eq_stepAll (s : Store) (events : List Event) :
    s.run directory events = stepAll (Store.step directory) s events := by
  induction events generalizing s with
  | nil => rfl
  | cons event events ih =>
    rw [stepAll_cons, ← ih]
    rfl

/-- **A run leaves in the store what its inserts alone leave there.** -/
theorem run_inserts (s : Store) (events : List Event) :
    (s.run directory events).2 = (s.run directory (inserts events)).2 := by
  rw [run_eq_stepAll, run_eq_stepAll, inserts, stepAll_filter]
  intro s event hevent
  cases event with
  | insert fresh user => cases hevent
  | request r => rfl

/-- Requests alone leave the store as it is, and all are answered over it. -/
theorem run_requests (s : Store) (requests : List Request) :
    s.run directory (requests.map .request)
      = (requests.map fun r => .answered (answer (directory s) r), s) := by
  induction requests with
  | nil => rfl
  | cons r requests ih =>
    show (.answered (answer (directory s) r) :: (s.run directory (requests.map .request)).1,
      (s.run directory (requests.map .request)).2) = _
    rw [ih]
    rfl

/-- The answer to a request in the middle of a run. -/
theorem outcome_request (s : Store) (before : List Event) (r : Request) (after : List Event) :
    (s.run directory (before ++ .request r :: after)).1[before.length]?
      = some (.answered (answer (directory (s.run directory (inserts before)).2) r)) := by
  rw [run_eq_stepAll, getElem?_stepAll, ← run_eq_stepAll, run_inserts]
  rfl

/-- A request that is answered alike may stand in the place of another. -/
theorem run_request_congr (s : Store) (before : List Event) {r r' : Request} (after : List Event)
    (h : ∀ d, answer d r = answer d r') :
    s.run directory (before ++ .request r :: after)
      = s.run directory (before ++ .request r' :: after) := by
  simp only [run_eq_stepAll, stepAll_append, stepAll_cons, step, h]

/-- Without a request the rest of a run is the same. -/
theorem run_eraseIdx_request (s : Store) (before : List Event) (r : Request)
    (after : List Event) :
    (s.run directory (before ++ .request r :: after)).1.eraseIdx before.length
      = (s.run directory (before ++ after)).1 := by
  rw [run_eq_stepAll, run_eq_stepAll, stepAll_append, stepAll_cons, stepAll_append,
    ← length_stepAll (Store.step directory) s before,
    List.eraseIdx_append_of_length_le (Nat.le_refl _), Nat.sub_self, List.eraseIdx_cons_zero]
  rfl

end Store

/-- **Requests never interfere.** A run leaves in the store what its inserts alone leave there. In
two runs from one store, requests with the same method and the same raw path are answered alike if
the inserts before them agree, whatever else happened and will happen. A request may be left out
without a change to any other outcome; and it may be replaced by one whose headers, body, query and
fragment differ without a change to the run. -/
theorem requests_never_interfere (directory : Store → Option Directory) (s : Store) :
    (∀ events, (s.run directory events).2 = (s.run directory (inserts events)).2) ∧
    (∀ before r after before' r' after', inserts before = inserts before' →
      r.method = r'.method → r.uri.path = r'.uri.path →
      ∃ a, (s.run directory (before ++ .request r :: after)).1[before.length]?
          = some (.answered a) ∧
        (s.run directory (before' ++ .request r' :: after')).1[before'.length]?
          = some (.answered a)) ∧
    (∀ before r after, (s.run directory (before ++ .request r :: after)).1.eraseIdx before.length
      = (s.run directory (before ++ after)).1) ∧
    (∀ method target target' headers headers' body body' r r',
      Request.make method target headers body = .ok r →
      Request.make method target' headers' body' = .ok r' →
      Uri.beforeQuery target.toList = Uri.beforeQuery target'.toList →
      ∀ before after, s.run directory (before ++ .request r :: after)
        = s.run directory (before ++ .request r' :: after)) := by
  refine ⟨Store.run_inserts directory s, ?_, Store.run_eraseIdx_request directory s, ?_⟩
  · intro before r after before' r' after' hinserts hmethod hpath
    refine ⟨_, Store.outcome_request directory s before r after, ?_⟩
    rw [Store.outcome_request, hinserts, answer_congr _ hmethod hpath]
  · intro method target target' headers headers' body body' r r' hr hr' htarget before after
    exact Store.run_request_congr directory s before after
      fun d => answer_eq_of_make d hr hr' htarget

/-- A query and a header more, a fragment less: the run stays the same. -/
theorem run_unchanged_by_query :
    Request.make "GET" "/users/a?v=1" [("accept", "*")] "b"
      = .ok ⟨"GET", ⟨"/users/a", some "v=1"⟩, [("accept", "*")], "b"⟩ ∧
    Request.make "GET" "/users/a#top" [] "" = .ok ⟨"GET", ⟨"/users/a", none⟩, [], ""⟩ ∧
    Store.empty.run Store.directory [.insert ⟨"e", .epoch⟩ ⟨"a", "first", "", .epoch⟩,
        .request ⟨"GET", ⟨"/users/a", some "v=1"⟩, [("accept", "*")], "b"⟩,
        .insert ⟨"f", .epoch⟩ ⟨"a", "second", "", .epoch⟩]
      = Store.empty.run Store.directory [.insert ⟨"e", .epoch⟩ ⟨"a", "first", "", .epoch⟩,
        .request ⟨"GET", ⟨"/users/a", none⟩, [], ""⟩,
        .insert ⟨"f", .epoch⟩ ⟨"a", "second", "", .epoch⟩] := by
  have hquery : Request.make "GET" "/users/a?v=1" [("accept", "*")] "b"
      = .ok ⟨"GET", ⟨"/users/a", some "v=1"⟩, [("accept", "*")], "b"⟩ := by rfl
  have hfragment : Request.make "GET" "/users/a#top" [] ""
      = .ok ⟨"GET", ⟨"/users/a", none⟩, [], ""⟩ := by rfl
  obtain ⟨-, -, -, hrun⟩ := requests_never_interfere Store.directory Store.empty
  exact ⟨hquery, hfragment, hrun _ _ _ _ _ _ _ _ _ hquery hfragment (by decide)
    [.insert ⟨"e", .epoch⟩ ⟨"a", "first", "", .epoch⟩]
    [.insert ⟨"f", .epoch⟩ ⟨"a", "second", "", .epoch⟩]⟩

end UserDirectory
