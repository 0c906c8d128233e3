import AgentFlow.Compile
import AgentFlow.Proofs.SortedMap
import AgentFlow.Proofs.Task.Step
import Mathlib.Data.List.Induction

/-!
# The agent that a number refers to

Which member of an entry refers to its agent, and which agent a number there stands for. A fraction
stands for none, and a whole number of 64 bits for the agent with that id. A number beyond these is
taken for the nearest of them, so that it stands for an agent with another id, if there is one.
-/

namespace AgentFlow

open Number

/-- A value that counts as not given: null, false, zero, or one that is empty. -/
inductive CountsAsMissing : Json → Prop
  | null : CountsAsMissing .null
  | false : CountsAsMissing (.bool false)
  | zero {v : Json} : v.number? = some 0 → CountsAsMissing v
  | emptyText : CountsAsMissing (.string "")
  | emptyArray : CountsAsMissing (.array [])
  | emptyObject : CountsAsMissing (.object [])

/-- A value of an entry refers to its agent: the one under `agent_id`, and if that counts as missing
the one under `agentId`. -/
inductive RefersBy (item v : Json) : Prop
  | first : item.member? "agent_id" = some v → ¬ CountsAsMissing v → RefersBy item v
  | second : (∀ other, item.member? "agent_id" = some other → CountsAsMissing other) →
      item.member? "agentId" = some v → RefersBy item v

namespace Task

/-- The values that count as missing are the blank ones. -/
theorem isBlank_iff {v : Json} : isBlank v = true ↔ CountsAsMissing v := by
  constructor
  · intro h
    cases v with
    | null => exact .null
    | bool b =>
      obtain rfl : b = false := by simpa [isBlank] using h
      exact .false
    | int n =>
      obtain rfl : n = 0 := by simpa [isBlank] using h
      exact .zero rfl
    | float x => exact .zero (Binary.isZero_iff.mp h)
    | string s =>
      obtain rfl : s = "" := by simpa [isBlank] using h
      exact .emptyText
    | array items =>
      obtain rfl : items = [] := by simpa [isBlank] using h
      exact .emptyArray
    | object members =>
      obtain rfl : members = [] := by simpa [isBlank] using h
      exact .emptyObject
  · intro h
    cases h with
    | null | false | emptyText | emptyArray | emptyObject => rfl
    | @zero v hzero =>
      cases v with
      | int n =>
        have hn : n = 0 := by simpa [Json.number?] using hzero
        simpa [isBlank] using hn
      | float x => exact Binary.isZero_iff.mpr hzero
      | _ => cases hzero

/-- A value that counts as missing is none whether or not it is null. -/
theorem filter_given? (item : Json) (name : String) :
    (given? item name).filter (!isBlank ·) = (item.member? name).filter (!isBlank ·) := by
  by_cases hnull : item.member? name = some .null
  · rw [given?, hnull]
    rfl
  · rw [given?_eq_member? hnull]

/-- What a member refers to does not depend on whether a null is given. -/
theorem bind_given? (item : Json) (name : String) :
    (given? item name).bind agentRef? = (item.member? name).bind agentRef? := by
  by_cases hnull : item.member? name = some .null
  · rw [given?, hnull]
    rfl
  · rw [given?_eq_member? hnull]

/-- The agent of an entry is what the value by which it refers to its agent stands for. -/
theorem agentOf_of_refersBy {item v : Json} (h : RefersBy item v) : agentOf item = agentRef? v := by
  rw [agentOf, filter_given?]
  cases h with
  | first hmember hgiven =>
    have hblank : isBlank v = false := by
      rw [← Bool.not_eq_true, isBlank_iff]
      exact hgiven
    rw [hmember, Option.filter_some, hblank]
    rfl
  | second hmissing hmember =>
    have hnone : (item.member? "agent_id").filter (!isBlank ·) = none := by
      rw [Option.filter_eq_none_iff]
      intro other hother
      simp [isBlank_iff.mpr (hmissing other hother)]
    rw [hnone, Option.none_or, bind_given?, hmember, Option.bind_some]

/-- The task of an entry is delegated to the agent of the entry. -/
theorem agentId_of_ofEntry {item : Json} {task : Task} (h : ofEntry item = .ok task) :
    task.agentId = agentOf item := by
  cases item with
  | object members =>
    rw [ofEntry] at h
    cases hstep : stepOf (given? (.object members) "step") with
    | error fault =>
      rw [hstep] at h
      cases h
    | ok k =>
      rw [hstep] at h
      cases h
      rfl
  | _ => cases h

/-- A number refers to an agent if it is whole, and then to the one under the nearest id. -/
theorem agentRef?_of_number {v : Json} {r : Rat} {k : Int} (hwords : v.InWords)
    (hnumber : v.number? = some r) :
    agentRef? v = some k ↔ ∃ n : Int, r = n ∧ k = IntRange.int64.clamp n := by
  cases v with
  | int m =>
    obtain rfl : (m : Rat) = r := Option.some.inj hnumber
    have hclamp : agentRef? (.int m) = some (IntRange.int64.clamp m) := by
      rcases intOrDouble_cases hwords with ⟨hint, hclamp⟩ | ⟨x, hdouble, hclamp⟩
      · simp only [agentRef?, hint, hclamp]
      · simp only [agentRef?, hdouble, hclamp]
    rw [hclamp, Option.some.injEq]
    simp only [Int.cast_inj, exists_eq_left', eq_comm]
  | float x =>
    have hvalue : x.value? = some r := hnumber
    rw [agentRef?, clampedInt?_eq_some_iff, hvalue]
    simp only [Option.some.injEq]
  | _ => cases hnumber

end Task

namespace Roster

/-- Of the agents with one id the last one is there. -/
theorem get?_ofAgents (agents : List Agent) (i : Int) :
    (ofAgents agents).get? i = agents.reverse.find? (·.id = i) := by
  induction agents using List.reverseRecOn with
  | nil => rfl
  | append_singleton agents agent ih =>
    have hinsert : ofAgents (agents ++ [agent]) = (ofAgents agents).insert agent.id agent := by
      simp only [ofAgents, SortedMap.ofList, SortedMap.insertMany, List.map_append,
        List.foldl_append]
      rfl
    rw [hinsert, SortedMap.get?_insert, ih, List.reverse_concat, List.find?_cons]
    by_cases hid : agent.id = i
    · simp [hid]
    · simp [hid, Ne.symm hid]

end Roster

/-- **Numbers as references.** An entry whose agent is referred to by a number is delegated by the
exact value of that number: a fraction refers to no agent, and a number of the range of ids to the
agent under it, if there is one. Beyond the range the number is taken for the end of the range that
is nearest to it, and the task is delegated to the agent under that id, if there is one. -/
theorem resolve_of_number {item v : Json} {r : Rat} {task : Task} (hwords : v.InWords)
    (hrefers : RefersBy item v) (hnumber : v.number? = some r)
    (htask : Task.ofEntry item = .ok task) (agents : List Agent) :
    let agent? := (Roster.ofAgents agents).resolve task
    (∀ agent, agent? = some agent → IntRange.int64.least ≤ r → r ≤ IntRange.int64.greatest →
      agent ∈ agents ∧ (agent.id : Rat) = r) ∧
    ((∀ n : Int, r ≠ n) → agent? = none) ∧
    ∀ n : Int, r = n →
      agent? = agents.reverse.find? fun agent => agent.id = IntRange.int64.clamp n := by
  intro agent?
  have hagent : agent? = (Task.agentRef? v).bind (Roster.ofAgents agents).get? := by
    rw [← Task.agentOf_of_refersBy hrefers, ← Task.agentId_of_ofEntry htask]
    rfl
  have hwhole (n : Int) (hn : r = n) :
      agent? = agents.reverse.find? fun agent => agent.id = IntRange.int64.clamp n := by
    have href := (Task.agentRef?_of_number hwords hnumber).mpr ⟨n, hn, rfl⟩
    rw [hagent, href, Option.bind_some, Roster.get?_ofAgents]
  have hfraction (hr : ∀ n : Int, r ≠ n) : agent? = none := by
    have href : Task.agentRef? v = none := by
      rw [Option.eq_none_iff_forall_ne_some]
      intro k hk
      obtain ⟨n, hn, _⟩ := (Task.agentRef?_of_number hwords hnumber).mp hk
      exact hr n hn
    rw [hagent, href, Option.bind_none]
  refine ⟨fun agent hfound hleast hgreatest => ?_, hfraction, hwhole⟩
  by_cases hr : ∃ n : Int, r = n
  · obtain ⟨n, rfl⟩ := hr
    have hrange : IntRange.int64.contains n = true :=
      IntRange.contains_iff.mpr ⟨by exact_mod_cast hleast, by exact_mod_cast hgreatest⟩
    rw [hwhole n rfl, IntRange.clamp_of_contains hrange] at hfound
    have hid : agent.id = n := by simpa using List.find?_some hfound
    exact ⟨List.mem_reverse.mp (List.mem_of_find?_eq_some hfound), by rw [hid]⟩
  · rw [hfraction (not_exists.mp hr)] at hfound
    cases hfound

/-- An agent under the greatest id that there is. -/
def greatestAgent : Agent :=
  .ofDraft 0x7FFFFFFFFFFFFFFF ⟨"Last", none, defaultModel, ""⟩ ⟨⟨2024, 1, 1⟩, 0, 0, 0⟩

/-- The greatest id there is, referred to by the second member because the first one is zero. -/
theorem resolve_of_number_greatest :
    let v : Json := .int 0x7FFFFFFFFFFFFFFF
    let item : Json := .object [("agentId", v), ("agent_id", .int 0)]
    let r : Rat := (0x7FFFFFFFFFFFFFFF : Int)
    let task : Task := ⟨0, some 0x7FFFFFFFFFFFFFFF, ""⟩
    v.InWords ∧ RefersBy item v ∧ v.number? = some r ∧ Task.ofEntry item = .ok task ∧
      (Roster.ofAgents [greatestAgent]).resolve task = some greatestAgent ∧
      (greatestAgent.id : Rat) = r := by
  intro v item r task
  have hwords : v.InWords := Or.inl (by decide)
  have hrefers : RefersBy item v := by
    refine .second (fun other hother => ?_) rfl
    cases hother
    exact .zero rfl
  have hnumber : v.number? = some r := rfl
  have htask : Task.ofEntry item = .ok task := rfl
  obtain ⟨hexact, _, hwhole⟩ := resolve_of_number hwords hrefers hnumber htask [greatestAgent]
  have hagent : (Roster.ofAgents [greatestAgent]).resolve task = some greatestAgent :=
    hwhole 0x7FFFFFFFFFFFFFFF rfl
  refine ⟨hwords, hrefers, hnumber, htask, hagent, (hexact greatestAgent hagent ?_ ?_).2⟩
  · exact Int.cast_le.mpr (by decide)
  · exact Int.cast_le.mpr (by decide)

/-- Not every agent that a number refers to has that number as its id: one beyond the range of ids
refers to the agent at the end of the range. -/
theorem exists_resolve_ne_number :
    ¬ ∀ (item v : Json) (r : Rat) (task : Task) (agents : List Agent) (agent : Agent), v.InWords →
      RefersBy item v → v.number? = some r → Task.ofEntry item = .ok task →
      (Roster.ofAgents agents).resolve task = some agent → (agent.id : Rat) = r := by
  intro h
  have hrefers : RefersBy (.object [("agent_id", .int 0x8000000000000000)])
      (.int 0x8000000000000000) := by
    refine .first rfl fun hmissing => ?_
    cases hmissing with
    | zero hzero => simp [Json.number?] at hzero
  have hwords : (Json.int 0x8000000000000000).InWords := .inr (by decide)
  have hid := h _ _ (0x8000000000000000 : Int) ⟨0, some 0x7FFFFFFFFFFFFFFF, ""⟩ [greatestAgent]
    greatestAgent hwords hrefers rfl (by rfl) (by rfl)
  exact absurd (Int.cast_inj.mp hid) (by decide)

end AgentFlow
