import AgentFlow.Api.Resource
import AgentFlow.Proofs.Text.Parts

/-!
# The paths of resources

Which path leads to which resource, spelled out. Paths are compared as texts, but for the segment
that holds an id: it is any text without slashes, and may not be empty.
-/

namespace AgentFlow.Api

/-- A segment of a path that may hold an id. -/
def IsSegment (segment : String) : Prop := segment ≠ "" ∧ '/' ∉ segment.toList

namespace Resource

/-- The paths of a resource. -/
def LiesAt (path : String) : Resource → Prop
  | welcome => path = "/"
  | health => path = "/health"
  | chat => path = "/api/v1/chat"
  | agents => path = "/api/v1/agents" ∨ path = "/api/v1/agents/"
  | agent id => IsSegment id ∧ path = "/api/v1/agents/" ++ id
  | workflows => path = "/api/v1/workflows" ∨ path = "/api/v1/workflows/"
  | workflow id => IsSegment id ∧ path = "/api/v1/workflows/" ++ id
  | runs id => IsSegment id ∧ path = "/api/v1/workflows/" ++ id ++ "/run"
  | streams id => IsSegment id ∧ path = "/api/v1/workflows/" ++ id ++ "/run/stream"

/-- What the segments of a path lead to lies at the path. -/
theorem liesAt_of_ofSegments? {segments : List String} {resource : Resource}
    (hplain : ∀ segment ∈ segments, '/' ∉ segment.toList)
    (h : ofSegments? segments = some resource) :
    resource.LiesAt ("/".intercalate segments) := by
  unfold ofSegments? at h
  split at h
  · cases h
    rfl
  · cases h
    rfl
  · cases h
    rfl
  · cases h
    exact .inl rfl
  · next id =>
    cases h
    split
    · next hid =>
      subst hid
      exact .inr rfl
    · next hid => exact ⟨⟨hid, hplain id (by simp)⟩, rfl⟩
  · cases h
    exact .inl rfl
  · next id =>
    cases h
    split
    · next hid =>
      subst hid
      exact .inr rfl
    · next hid => exact ⟨⟨hid, hplain id (by simp)⟩, rfl⟩
  · next id =>
    split at h
    · cases h
    · next hid =>
      cases h
      exact ⟨⟨hid, hplain id (by simp)⟩, by simp [← String.toList_inj]⟩
  · next id =>
    split at h
    · cases h
    · next hid =>
      cases h
      exact ⟨⟨hid, hplain id (by simp)⟩, by simp [← String.toList_inj]⟩
  · cases h

/-- A path that segments are joined to leads to what the segments lead to. -/
theorem ofPath?_of_eq_intercalate {path : String} {segments : List String}
    (hpath : path = "/".intercalate segments) (hne : segments ≠ [])
    (hplain : ∀ segment ∈ segments, '/' ∉ segment.toList) :
    ofPath? path = ofSegments? segments :=
  congrArg ofSegments? ((Text.partsOf_eq_iff hne).mpr ⟨hplain, hpath⟩)

/-- **Paths.** A path leads to the resource that lies at it, and to none if there is none. -/
theorem ofPath?_eq_some_iff {path : String} {resource : Resource} :
    ofPath? path = some resource ↔ resource.LiesAt path := by
  constructor
  · intro h
    have hne : Text.partsOf '/' path ≠ [] := by
      simpa only [Text.partsOf, ne_eq, List.map_eq_nil_iff] using Text.parts_ne_nil _ _
    obtain ⟨hplain, hpath⟩ := (Text.partsOf_eq_iff hne).mp rfl
    rw [hpath]
    exact liesAt_of_ofSegments? hplain h
  · intro h
    cases resource with
    | welcome => subst h; rfl
    | health => subst h; rfl
    | chat => subst h; rfl
    | agents => obtain rfl | rfl := h <;> rfl
    | workflows => obtain rfl | rfl := h <;> rfl
    | agent id =>
      obtain ⟨⟨hid, hplain⟩, hpath⟩ := h
      have hjoin : path = "/".intercalate ["", "api", "v1", "agents", id] := by
        simpa [← String.toList_inj] using hpath
      rw [ofPath?_of_eq_intercalate hjoin (List.cons_ne_nil _ _) (by simpa using hplain)]
      exact congrArg some (if_neg hid)
    | workflow id =>
      obtain ⟨⟨hid, hplain⟩, hpath⟩ := h
      have hjoin : path = "/".intercalate ["", "api", "v1", "workflows", id] := by
        simpa [← String.toList_inj] using hpath
      rw [ofPath?_of_eq_intercalate hjoin (List.cons_ne_nil _ _) (by simpa using hplain)]
      exact congrArg some (if_neg hid)
    | runs id =>
      obtain ⟨⟨hid, hplain⟩, hpath⟩ := h
      have hjoin : path = "/".intercalate ["", "api", "v1", "workflows", id, "run"] := by
        simpa [← String.toList_inj] using hpath
      rw [ofPath?_of_eq_intercalate hjoin (List.cons_ne_nil _ _) (by simpa using hplain)]
      exact if_neg hid
    | streams id =>
      obtain ⟨⟨hid, hplain⟩, hpath⟩ := h
      have hjoin : path = "/".intercalate ["", "api", "v1", "workflows", id, "run", "stream"] := by
        simpa [← String.toList_inj] using hpath
      rw [ofPath?_of_eq_intercalate hjoin (List.cons_ne_nil _ _) (by simpa using hplain)]
      exact if_neg hid

/-- At a path lies one resource at most. -/
theorem LiesAt.unique {path : String} {first second : Resource} (hfirst : first.LiesAt path)
    (hsecond : second.LiesAt path) : first = second :=
  Option.some.inj ((ofPath?_eq_some_iff.mpr hfirst).symm.trans (ofPath?_eq_some_iff.mpr hsecond))

end Resource

end AgentFlow.Api
