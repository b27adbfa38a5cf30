import UserDirectory.Proofs.Records
import UserDirectory.Proofs.Routing
import UserDirectory.Proofs.Store

/-!
# Users are found where they were put

From the insert to the reply: the id in the target reaches the store as it is written, the store
holds the last user that came in under it, and the body of the reply is read back as that user.
-/

namespace UserDirectory

/-- The target of the user with an id. A query or a fragment may follow. -/
def userTarget (id suffix : String) : String := "/users/" ++ id ++ suffix

theorem toList_userTarget (id suffix : String) :
    (userTarget id suffix).toList
      = '/' :: ((usersSegment ++ '/' :: id.toList) ++ suffix.toList) := by
  rw [userTarget, String.toList_append, String.toList_append, List.append_assoc, List.append_assoc]
  rfl

/-- A target with an id is a request for the user with that id, whatever follows the path. -/
theorem asksUser_of_parse? {id suffix : String} {u : Uri} {headers : List (String × String)}
    {body : String} (hquery : '?' ∉ id.toList) (hfragment : '#' ∉ id.toList)
    (hsuffix : suffix.toList.head? ∈ [none, some '?', some '#'])
    (h : Uri.parse? (userTarget id suffix) = some u) :
    Request.AsksUser ⟨"GET", u, headers, body⟩ usersSegment id.toList := by
  refine ⟨rfl, Uri.Spelled.self usersSegment, ?_⟩
  have hpath := Uri.path_of_parse? (toList_userTarget id suffix) ?_ ?_ h
  · show u.path.toList = _
    rw [hpath, String.toList_ofList]
  · intro c hc
    simp only [List.mem_append, List.mem_cons] at hc
    rcases hc with hc | rfl | hc
    · simp only [usersSegment, List.mem_cons, List.not_mem_nil, or_false] at hc
      rcases hc with rfl | rfl | rfl | rfl | rfl <;> decide
    · decide
    · have hne : c ≠ '?' := fun h => hquery (h ▸ hc)
      have hne' : c ≠ '#' := fun h => hfragment (h ▸ hc)
      simp [Uri.endsPath, hne, hne']
  · intro c hc
    rw [Option.mem_def] at hc
    rw [hc] at hsuffix
    simpa [Uri.endsPath] using hsuffix

/-- **A user is found where it was put.** After any run, a request for an id that the target can
carry is answered with a text from which the last user that came in under the id is read, or the
blank user if none did. -/
theorem get_finds_last_inserted (events : List Event) (id suffix : String)
    (headers : List (String × String)) (body : String)
    (hquery : '?' ∉ id.toList) (hfragment : '#' ∉ id.toList)
    (hsuffix : suffix.toList.head? ∈ [none, some '?', some '#'])
    (haccepted : (Uri.parse? (userTarget id suffix)).isSome = true) :
    ∃ r json, Request.make "GET" (userTarget id suffix) headers body = .ok r ∧
      (answer (Store.empty.run Store.directory events).2.directory r).reply
        = ⟨200, [("content-type", "application/json")], json⟩ ∧
      User.ofJson json = .ok ((lastInserted id events).getD .blank) := by
  obtain ⟨u, hu⟩ := Option.isSome_iff_exists.mp haccepted
  have hasks : Request.AsksUser ⟨"GET", u, headers, body⟩ usersSegment id.toList :=
    asksUser_of_parse? hquery hfragment hsuffix hu
  have hask : userIdOfPath u.path = id := by
    rw [userIdOfPath_eq hasks.2.1 hasks.2.2, if_pos rfl, String.ofList_toList]
  refine ⟨⟨"GET", u, headers, body⟩, ((lastInserted id events).getD .blank).toJson, ?_, ?_, ?_⟩
  · rw [Request.make, hu]
    exact if_pos (by decide)
  · rw [Store.directory, answer_of_asksUser hasks]
    show Reply.json 200 (Store.find _ (userIdOfPath u.path)).toJson = _
    rw [hask, Store.find_run_empty]
    rfl
  · exact User.ofJson_toJson _

/-- The later of two users under an id with an escape, a quote and a `/users/` of its own. -/
theorem get_finds_escaped_id :
    ('?' ∉ "a%2Fb/users/\"".toList ∧ '#' ∉ "a%2Fb/users/\"".toList) ∧
    "?v=1".toList.head? ∈ [none, some '?', some '#'] ∧
    (Uri.parse? (userTarget "a%2Fb/users/\"" "?v=1")).isSome = true ∧
    ∃ r json, Request.make "GET" (userTarget "a%2Fb/users/\"" "?v=1") [] "" = .ok r ∧
      (answer (Store.empty.run Store.directory [
        .insert ⟨"1", .epoch⟩ ⟨"a%2Fb/users/\"", "first", "", .epoch⟩,
        .insert ⟨"2", .epoch⟩ ⟨"a%2Fb/users/\"", "second", "\n", .epoch⟩,
        .insert ⟨"3", .epoch⟩ ⟨"", "third", "", .epoch⟩]).2.directory r).reply
        = ⟨200, [("content-type", "application/json")], json⟩ ∧
      User.ofJson json = .ok ⟨"a%2Fb/users/\"", "second", "\n", .epoch⟩ :=
  ⟨by decide, by decide, by decide,
    get_finds_last_inserted _ _ _ [] "" (by decide) (by decide) (by decide) (by decide)⟩

end UserDirectory
