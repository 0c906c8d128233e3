import AgentFlow.Proofs.Store.Log

/-!
# The ids of a store

Ids are given out once. Every record is there under its own id, and the greatest id of a collection
is the greatest that was ever entered, whatever has been removed since; so the id of a new record is
beyond all of them.
-/

namespace AgentFlow

open Time

variable {α : Type}

/-- Records are kept by their own ids, and `last` is the greatest of zero and all ids that were ever
entered. -/
structure KeepsIds (idOf : α → Int) (log : List (Entry α)) (records : SortedMap Int α)
    (last : Int) : Prop where
  id_eq : ∀ e ∈ records.entries, idOf e.2 = e.1
  nonneg : 0 ≤ last
  entered_le : ∀ id ∈ enteredIds log, id ≤ last
  attained : last = 0 ∨ last ∈ enteredIds log

/-- A record is put under an id beyond all that were ever entered, where nothing was, and every
other record stays where it was. -/
structure AddsNew (log : List (Entry α)) (before after : SortedMap Int α) (id : Int)
    (record : α) : Prop where
  entered_lt : ∀ other ∈ enteredIds log, other < id
  vacant : before.get? id = none
  get?_eq : ∀ k, after.get? k = if k = id then some record else before.get? k

namespace Collection

variable {idOf : α → Int} {c : Collection α} {log : List (Entry α)}

/-- A collection that is what its log makes of the empty one keeps ids. -/
theorem Sound.keepsIds (h : c.Sound idOf) (hlog : c = empty.replay log) :
    KeepsIds idOf log c.records c.last := by
  obtain ⟨hnonneg, hentered, hattained⟩ := last_replay empty log
  rw [← hlog] at hnonneg hentered hattained
  refine ⟨?_, hnonneg, hentered, hattained⟩
  rintro ⟨id, record⟩ hmem
  exact h.id_eq ((SortedMap.mem_entries_iff Int.lt_irrefl).mp hmem)

/-- The id after the greatest one is new. -/
theorem Sound.addsNew (h : c.Sound idOf) (hlog : c = empty.replay log) (record : α) :
    AddsNew log c.records (c.records.insert (c.last + 1) record) (c.last + 1) record := by
  refine ⟨fun other hother => ?_, ?_, fun k => SortedMap.get?_insert _ _ _ _⟩
  · have hle := (h.keepsIds hlog).entered_le other hother
    omega
  · cases hget : c.records.get? (c.last + 1) with
    | none => rfl
    | some other =>
      have hle := h.le_last hget
      omega

end Collection

namespace Store

/-- **Ids.** After any changes of an empty store, by whichever clients and in whichever order, every
record is there under its own id, and the greatest id of each collection is the greatest of zero and
all ids under which a record was ever created or inserted, be it there still or not. The next record
that is created therefore has an id beyond all of these, and replaces none. -/
theorem ids_ofHistory (history : List (Instant × Change)) :
    let store := ofHistory history
    let agentLog := empty.agentLog history
    let workflowLog := empty.workflowLog history
    KeepsIds Agent.id agentLog store.agents store.lastAgentId ∧
    KeepsIds Workflow.id workflowLog store.workflows store.lastWorkflowId ∧
    (∀ draft now,
      let (agent, after) := store.createAgent draft now
      AddsNew agentLog store.agents after.agents agent.id agent) ∧
    ∀ draft now,
      let (workflow, after) := store.createWorkflow draft now
      AddsNew workflowLog store.workflows after.workflows workflow.id workflow := by
  obtain ⟨hagents, hworkflows⟩ := sound_ofHistory history
  have hagentLog := agentCollection_replay empty history
  have hworkflowLog := workflowCollection_replay empty history
  exact ⟨hagents.keepsIds hagentLog, hworkflows.keepsIds hworkflowLog,
    fun _ _ => hagents.addsNew hagentLog _, fun _ _ => hworkflows.addsNew hworkflowLog _⟩

end Store

end AgentFlow
