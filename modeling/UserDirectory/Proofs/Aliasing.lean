import UserDirectory.Proofs.Routing

/-!
# Paths that ask for one user

A path that begins with `/users/` gives what follows as the id, and any other path is an id as a
whole. So two different paths give one id only if one of them is `/users/` and the other path
(`Wraps`): stripped, the longer one leaves the shorter, which has nothing to be stripped.

Of the requests for users, the ones with nothing to be stripped are those that spell the segment
`users` with an escape. Two literal spellings never meet.
-/

namespace UserDirectory

/-! ## Paths -/

/-- The path is `/users/` and the other path, and nothing is stripped from the other. -/
def Wraps (path other : String) : Prop :=
  path = "/users/" ++ other ∧ ¬ usersPath <+: other.toList

theorem userIdOfPath_usersPath_append (id : String) : userIdOfPath ("/users/" ++ id) = id := by
  have hstrip : usersPath.isPrefixOf? ("/users/" ++ id).toList = some id.toList := by
    rw [List.isPrefixOf?_eq_some_iff_append_eq, String.toList_append]
    rfl
  rw [userIdOfPath, hstrip]
  exact String.ofList_toList

theorem userIdOfPath_of_unstripped {path : String} (h : ¬ usersPath <+: path.toList) :
    userIdOfPath path = path := by
  unfold userIdOfPath
  split
  · next id hid => exact absurd ⟨id, List.isPrefixOf?_eq_some_iff_append_eq.mp hid⟩ h
  · rfl

theorem prefix_iff_exists_id {path : String} :
    usersPath <+: path.toList ↔ ∃ id, path = "/users/" ++ id := by
  constructor
  · rintro ⟨id, hid⟩
    refine ⟨String.ofList id, String.toList_inj.mp ?_⟩
    rw [String.toList_append, ← hid]
    exact congrArg (usersPath ++ ·) String.toList_ofList.symm
  · rintro ⟨id, rfl⟩
    rw [String.toList_append]
    exact List.prefix_append usersPath id.toList

/-- A literal path and a path that is stripped of nothing give one id if the first is `/users/` and
the second. -/
theorem userIdOfPath_eq_iff_of_stripped {path other : String} (h : usersPath <+: path.toList)
    (hother : ¬ usersPath <+: other.toList) :
    userIdOfPath path = userIdOfPath other ↔ path = "/users/" ++ other := by
  obtain ⟨id, rfl⟩ := prefix_iff_exists_id.mp h
  rw [userIdOfPath_usersPath_append, userIdOfPath_of_unstripped hother, String.append_right_inj]

/-- Different literal paths give different ids. -/
theorem userIdOfPath_ne_of_stripped {path other : String} (h : usersPath <+: path.toList)
    (hother : usersPath <+: other.toList) (hne : path ≠ other) :
    userIdOfPath path ≠ userIdOfPath other := by
  obtain ⟨id, rfl⟩ := prefix_iff_exists_id.mp h
  obtain ⟨id', rfl⟩ := prefix_iff_exists_id.mp hother
  rw [userIdOfPath_usersPath_append, userIdOfPath_usersPath_append]
  rintro rfl
  exact hne rfl

theorem Wraps.prefix_left {path other : String} (h : Wraps path other) :
    usersPath <+: path.toList :=
  prefix_iff_exists_id.mpr ⟨other, h.1⟩

/-- **Two different paths give one id only if one wraps the other.** -/
theorem userIdOfPath_eq_iff_wraps {p q : String} (hne : p ≠ q) :
    userIdOfPath p = userIdOfPath q ↔ Wraps p q ∨ Wraps q p := by
  by_cases hp : usersPath <+: p.toList
  · by_cases hq : usersPath <+: q.toList
    · refine iff_of_false (userIdOfPath_ne_of_stripped hp hq hne) ?_
      rintro (h | h)
      · exact h.2 hq
      · exact h.2 hp
    · rw [userIdOfPath_eq_iff_of_stripped hp hq]
      constructor
      · exact fun h => .inl ⟨h, hq⟩
      · rintro (h | h)
        · exact h.1
        · exact absurd hp h.2
  · by_cases hq : usersPath <+: q.toList
    · rw [eq_comm, userIdOfPath_eq_iff_of_stripped hq hp]
      constructor
      · exact fun h => .inr ⟨h, hp⟩
      · rintro (h | h)
        · exact absurd hq h.2
        · exact h.1
    · -- neither path is stripped
      rw [userIdOfPath_of_unstripped hp, userIdOfPath_of_unstripped hq]
      refine iff_of_false hne ?_
      rintro (h | h)
      · exact hp h.prefix_left
      · exact hq h.prefix_left

/-! ## Segments -/

/-- A spelling without an escape is the text itself. -/
theorem Uri.Spelled.eq_of_percent_notMem {text s : List Char} (h : Uri.Spelled text s)
    (hs : '%' ∉ s) : s = text := by
  induction h with
  | nil => rfl
  | literal _ ih =>
    rw [List.mem_cons, not_or] at hs
    rw [ih hs.2]
  | escape => exact absurd List.mem_cons_self hs

/-- The request spells the segment `users` of its path with an escape. -/
def Request.EscapesSegment (r : Request) : Prop :=
  ∃ segment rest, r.AsksUser segment rest ∧ '%' ∈ segment

/-- Of the requests for users nothing is stripped from those that escape the segment. -/
theorem Request.escapesSegment_iff {r : Request} (h : r.route = .user) :
    r.EscapesSegment ↔ ¬ usersPath <+: r.uri.path.toList := by
  constructor
  · rintro ⟨segment, rest, ⟨-, hsegment, hpath⟩, hpercent⟩ ⟨id, hid⟩
    -- the path has one second slash, before which the segment stands
    rw [hpath] at hid
    have hslash : '/' ∉ segment := hsegment.slash_notMem (by decide)
    obtain ⟨rfl, -⟩ := append_slash_inj (s := usersSegment) (by decide) hslash (List.cons.inj hid).2
    exact absurd hpercent (by decide)
  · intro hliteral
    obtain ⟨segment, rest, hasks⟩ := Request.route_eq_user_iff.mp h
    refine ⟨segment, rest, hasks, Decidable.byContradiction fun hpercent => hliteral ?_⟩
    obtain rfl := hasks.2.1.eq_of_percent_notMem hpercent
    exact ⟨rest, hasks.2.2.symm⟩

/-! ## Lookups -/

/-- **Lookups meet only where paths are nested.** Two different paths give one id exactly if one is
`/users/` and the other, which does not begin so itself. Two requests for users with different raw
paths ask for one id exactly if one path is `/users/` and the other, and the other spells `users`
with an escape; with a literal `/users/` in front of both they ask for different ids. -/
theorem lookups_meet_when_nested :
    (∀ p q : String, p ≠ q → (userIdOfPath p = userIdOfPath q ↔
      p = "/users/" ++ q ∧ ¬ "/users/".toList <+: q.toList ∨
      q = "/users/" ++ p ∧ ¬ "/users/".toList <+: p.toList)) ∧
    ∀ r r' : Request, r.route = .user → r'.route = .user → r.uri.path ≠ r'.uri.path →
      ∀ directory directory' : Directory,
        ((∃ id, (answer (some directory) r).asked = [id] ∧
            (answer (some directory') r').asked = [id]) ↔
          r.uri.path = "/users/" ++ r'.uri.path ∧ r'.EscapesSegment ∨
          r'.uri.path = "/users/" ++ r.uri.path ∧ r.EscapesSegment) ∧
        ("/users/".toList <+: r.uri.path.toList → "/users/".toList <+: r'.uri.path.toList →
          ∀ id ∈ (answer (some directory) r).asked,
            id ∉ (answer (some directory') r').asked) := by
  refine ⟨fun p q hne => userIdOfPath_eq_iff_wraps hne, ?_⟩
  intro r r' hr hr' hne directory directory'
  rw [asked_of_route_eq_user hr, asked_of_route_eq_user hr', Request.escapesSegment_iff hr,
    Request.escapesSegment_iff hr']
  constructor
  · have hasked : (∃ id, [userIdOfPath r.uri.path] = [id] ∧ [userIdOfPath r'.uri.path] = [id]) ↔
        userIdOfPath r.uri.path = userIdOfPath r'.uri.path := by
      simp [eq_comm]
    rw [hasked]
    exact userIdOfPath_eq_iff_wraps hne
  · intro h h' id hid
    rw [List.mem_singleton] at hid ⊢
    rw [hid]
    exact userIdOfPath_ne_of_stripped h h' hne

/-- A path with an escaped segment is asked for as a whole, and so is what follows a literal
`/users/` in front of it. -/
theorem escaped_path_met_by_nested :
    "/users//%75sers/a" ≠ "/%75sers/a" ∧
    userIdOfPath "/users//%75sers/a" = userIdOfPath "/%75sers/a" ∧
    Request.route ⟨"GET", ⟨"/users//%75sers/a", none⟩, [], ""⟩ = .user ∧
    Request.route ⟨"GET", ⟨"/%75sers/a", none⟩, [], ""⟩ = .user ∧
    ∃ id, (answer (some fun _ => .blank)
        ⟨"GET", ⟨"/users//%75sers/a", none⟩, [], ""⟩).asked = [id] ∧
      (answer (some fun _ => .blank) ⟨"GET", ⟨"/%75sers/a", none⟩, [], ""⟩).asked = [id] := by
  have hnested : Request.AsksUser ⟨"GET", ⟨"/users//%75sers/a", none⟩, [], ""⟩ usersSegment
      "/%75sers/a".toList := ⟨rfl, Uri.Spelled.self _, by decide⟩
  have hescaped : Request.AsksUser ⟨"GET", ⟨"/%75sers/a", none⟩, [], ""⟩ "%75sers".toList ['a'] :=
    ⟨rfl, .escape (by decide) (Uri.Spelled.self _), by decide⟩
  have hroute := Request.route_eq_user_iff.mpr ⟨_, _, hnested⟩
  have hroute' := Request.route_eq_user_iff.mpr ⟨_, _, hescaped⟩
  obtain ⟨hpaths, hrequests⟩ := lookups_meet_when_nested
  exact ⟨by decide, (hpaths _ _ (by decide)).mpr (.inl ⟨by decide, by decide⟩), hroute, hroute',
    (hrequests _ _ hroute hroute' (by decide) _ _).1.mpr
      (.inl ⟨by decide, _, _, hescaped, by decide⟩)⟩

end UserDirectory
