import Mathlib.Data.List.Basic
import UserDirectory.Application
import UserDirectory.Proofs.Http.Path

/-!
# Routes and raw paths

Which route a request takes is decided by its match path; here it is told from the raw path, in
which `users` may be spelled with escapes. Of the paths to a user only those with a literal
`/users/` in front have what follows as the id; the others are looked up as a whole.
-/

namespace UserDirectory

/-- The segment of the path to a user. -/
def usersSegment : List Char := ['u', 's', 'e', 'r', 's']

theorem isOpen_usersSegment : Uri.IsOpen usersSegment := by
  simp only [Uri.IsOpen, usersSegment, List.forall_mem_cons]
  exact ⟨by decide, by decide, by decide, by decide, by decide, by simp⟩

namespace Request

/-- The request asks whether the service is up. -/
def AsksHealth (r : Request) : Prop := r.method = "GET" ∧ r.uri.path = "/"

/-- The request asks for a user: its path is a segment that spells `users`, and what follows it. -/
def AsksUser (r : Request) (segment rest : List Char) : Prop :=
  r.method = "GET" ∧ Uri.Spelled usersSegment segment ∧
    r.uri.path.toList = '/' :: (segment ++ '/' :: rest)

/-! ## Routes -/

theorem usersPath_isPrefixOf_iff {u : Uri} :
    usersPath.isPrefixOf u.matchPath = true ↔
      ∃ segment rest, Uri.Spelled usersSegment segment ∧
        u.path.toList = '/' :: (segment ++ '/' :: rest) := by
  rw [List.isPrefixOf_iff_prefix]
  exact Uri.segment_prefix_matchPath_iff isOpen_usersSegment

theorem matchPath_eq_root_iff {u : Uri} : u.matchPath = ['/'] ↔ u.path = "/" := by
  rw [Uri.matchPath_eq_root_iff, ← String.toList_inj]
  rfl

theorem not_asksHealth_and_asksUser {r : Request} {segment rest : List Char}
    (hhealth : r.AsksHealth) : ¬ r.AsksUser segment rest := by
  rintro ⟨-, -, hpath⟩
  rw [hhealth.2] at hpath
  have htail : ([] : List Char) = segment ++ '/' :: rest := (List.cons.inj hpath).2
  simp at htail

theorem route_eq_health_iff {r : Request} : r.route = .health ↔ r.AsksHealth := by
  constructor
  · intro h
    unfold route at h
    split at h
    · cases h
    · next hmethod =>
      split at h
      · next hroot => exact ⟨not_not.mp hmethod, matchPath_eq_root_iff.mp hroot⟩
      · split at h
        · cases h
        · cases h
  · rintro ⟨hmethod, hpath⟩
    rw [route, if_neg (not_not.mpr hmethod), if_pos (matchPath_eq_root_iff.mpr hpath)]

theorem route_eq_user_iff {r : Request} :
    r.route = .user ↔ ∃ segment rest, r.AsksUser segment rest := by
  constructor
  · intro h
    unfold route at h
    split at h
    · cases h
    · next hmethod =>
      split at h
      · cases h
      · split at h
        · next hpre =>
          obtain ⟨segment, rest, hs, hpath⟩ := usersPath_isPrefixOf_iff.mp hpre
          exact ⟨segment, rest, not_not.mp hmethod, hs, hpath⟩
        · cases h
  · rintro ⟨segment, rest, h⟩
    -- the root is asked for first, but it has no segment
    have hroot : ¬ r.uri.matchPath = ['/'] := by
      intro hroot
      exact not_asksHealth_and_asksUser ⟨h.1, matchPath_eq_root_iff.mp hroot⟩ h
    rw [route, if_neg (not_not.mpr h.1), if_neg hroot,
      if_pos (usersPath_isPrefixOf_iff.mpr ⟨segment, rest, h.2⟩)]

theorem route_eq_nowhere_iff {r : Request} :
    r.route = .nowhere ↔ ¬ r.AsksHealth ∧ ¬ ∃ segment rest, r.AsksUser segment rest := by
  rw [← route_eq_health_iff, ← route_eq_user_iff]
  cases r.route with
  | health => simp
  | user => simp
  | nowhere => simp

end Request

/-! ## Ids -/

theorem isPrefixOf?_usersPath_iff {path id : List Char} :
    usersPath.isPrefixOf? path = some id ↔ path = '/' :: (usersSegment ++ '/' :: id) := by
  rw [List.isPrefixOf?_eq_some_iff_append_eq, eq_comm]
  rfl

theorem append_slash_inj {s t r r' : List Char} (hs : '/' ∉ s) (ht : '/' ∉ t)
    (h : s ++ '/' :: r = t ++ '/' :: r') : s = t ∧ r = r' := by
  rcases List.append_eq_append_iff.mp h with ⟨u, rfl, hu⟩ | ⟨u, rfl, hu⟩
  · cases u with
    | nil => exact ⟨by simp, (List.cons.inj hu).2⟩
    | cons c u =>
      obtain ⟨rfl, -⟩ := List.cons.inj hu
      simp at ht
  · cases u with
    | nil => exact ⟨by simp, (List.cons.inj hu).2.symm⟩
    | cons c u =>
      obtain ⟨rfl, -⟩ := List.cons.inj hu
      simp at hs

/-- What follows the segment is the id when the segment is literal. -/
theorem userIdOfPath_eq {path : String} {segment rest : List Char}
    (hsegment : Uri.Spelled usersSegment segment)
    (hpath : path.toList = '/' :: (segment ++ '/' :: rest)) :
    userIdOfPath path = if segment = usersSegment then String.ofList rest else path := by
  unfold userIdOfPath
  split
  · next id hid =>
    rw [isPrefixOf?_usersPath_iff, hpath] at hid
    -- a spelling has no slash, so the path splits at its second slash in one way
    have hslash : '/' ∉ segment := hsegment.slash_notMem (by decide)
    obtain ⟨rfl, rfl⟩ := append_slash_inj hslash (by decide) (List.cons.inj hid).2
    rw [if_pos rfl]
  · next hnone =>
    rw [if_neg]
    rintro rfl
    rw [isPrefixOf?_usersPath_iff.mpr hpath] at hnone
    cases hnone

/-! ## Answers -/

theorem answer_of_asksHealth {r : Request} (h : r.AsksHealth) (directory : Option Directory) :
    answer directory r = ⟨healthReply, []⟩ := by
  unfold answer
  rw [Request.route_eq_health_iff.mpr h]

theorem answer_of_asksUser {r : Request} {segment rest : List Char} (h : r.AsksUser segment rest)
    (directory : Directory) : answer (some directory) r = showUser directory r := by
  unfold answer
  rw [Request.route_eq_user_iff.mpr ⟨segment, rest, h⟩]

theorem asked_of_route_eq_user {r : Request} (h : r.route = .user) (directory : Directory) :
    (answer (some directory) r).asked = [userIdOfPath r.uri.path] := by
  obtain ⟨segment, rest, hasks⟩ := Request.route_eq_user_iff.mp h
  rw [answer_of_asksUser hasks]
  rfl

theorem answer_none_of_asksUser {r : Request} {segment rest : List Char}
    (h : r.AsksUser segment rest) : answer none r = ⟨.notConfigured, []⟩ := by
  unfold answer
  rw [Request.route_eq_user_iff.mpr ⟨segment, rest, h⟩]

theorem answer_of_route_eq_nowhere {r : Request} (h : r.route = .nowhere)
    (directory : Option Directory) : answer directory r = ⟨.notFound, []⟩ := by
  unfold answer
  rw [h]

theorem asked_showUser {r : Request} {segment rest : List Char} (h : r.AsksUser segment rest)
    (directory : Directory) :
    (showUser directory r).asked
      = [if segment = usersSegment then String.ofList rest else r.uri.path] := by
  rw [← userIdOfPath_eq h.2.1 h.2.2]
  rfl

/-- **Requests are routed by their raw paths.** A request asks for the health of the service, for a
user or for nothing that there is, and for one of these only. Where it asks for a user, the
directory is consulted once: for what follows the segment if the segment is literal, and for the
whole path otherwise. -/
theorem request_routed_by_raw_path (r : Request) :
    (r.route = .health ↔ r.AsksHealth) ∧
    (r.route = .user ↔ ∃ segment rest, r.AsksUser segment rest) ∧
    (r.route = .nowhere ↔ ¬ r.AsksHealth ∧ ¬ ∃ segment rest, r.AsksUser segment rest) ∧
    ¬ (r.AsksHealth ∧ ∃ segment rest, r.AsksUser segment rest) ∧
    (r.AsksHealth → ∀ directory, answer directory r = ⟨healthReply, []⟩) ∧
    (∀ segment rest, r.AsksUser segment rest →
      (∀ directory, answer (some directory) r = showUser directory r ∧
        (answer (some directory) r).asked
          = [if segment = usersSegment then String.ofList rest else r.uri.path]) ∧
      answer none r = ⟨.notConfigured, []⟩) ∧
    (¬ r.AsksHealth → (¬ ∃ segment rest, r.AsksUser segment rest) →
      ∀ directory, answer directory r = ⟨⟨404, [], ""⟩, []⟩) := by
  refine ⟨Request.route_eq_health_iff, Request.route_eq_user_iff, Request.route_eq_nowhere_iff,
    ?_, answer_of_asksHealth, ?_, ?_⟩
  · rintro ⟨hhealth, segment, rest, huser⟩
    exact Request.not_asksHealth_and_asksUser hhealth huser
  · intro segment rest h
    refine ⟨fun directory => ?_, answer_none_of_asksUser h⟩
    rw [answer_of_asksUser h directory]
    exact ⟨rfl, asked_showUser h directory⟩
  · intro hhealth huser
    exact answer_of_route_eq_nowhere (Request.route_eq_nowhere_iff.mpr ⟨hhealth, huser⟩)

/-- With an escape in the segment the whole path is looked up, the escaped slash in it kept. -/
theorem escaped_segment_asks_whole_path :
    Request.AsksUser ⟨"GET", ⟨"/%75sers/a%2Fb", none⟩, [], ""⟩
        ['%', '7', '5', 's', 'e', 'r', 's'] ['a', '%', '2', 'F', 'b'] ∧
    ∀ directory, (answer (some directory) ⟨"GET", ⟨"/%75sers/a%2Fb", none⟩, [], ""⟩).asked
      = ["/%75sers/a%2Fb"] := by
  have h : Request.AsksUser ⟨"GET", ⟨"/%75sers/a%2Fb", none⟩, [], ""⟩
      ['%', '7', '5', 's', 'e', 'r', 's'] ['a', '%', '2', 'F', 'b'] :=
    ⟨rfl, .escape (by decide) (Uri.Spelled.self _), by decide⟩
  obtain ⟨-, -, -, -, -, huser, -⟩ :=
    request_routed_by_raw_path ⟨"GET", ⟨"/%75sers/a%2Fb", none⟩, [], ""⟩
  exact ⟨h, fun directory => ((huser _ _ h).1 directory).2⟩

end UserDirectory
