import AgentFlow.Proofs.Store.Log

/-!
# What is read from a store

What is read from a store is what its log says: under each id the record of the latest entry about
it, and in the list of all records those that are there, by increasing id. The roster that workflows
are compiled against is another view of the agents. Each change leaves the other collection alone,
and one of a record that is not there leaves both.
-/

namespace AgentFlow

open Time

variable {α : Type}

/-- What is read of a collection, record by record and as a list, is what its log says. -/
structure ReadsLog (idOf : α → Int) (log : List (Entry α)) (get? : Int → Option α)
    (all : List α) : Prop where
  get?_eq : ∀ id, get? id = recordIn? log id
  ascending : all.Pairwise fun a b => idOf a < idOf b
  mem_iff : ∀ record, record ∈ all ↔ recordIn? log (idOf record) = some record

namespace Collection

variable {idOf : α → Int} {c : Collection α} {log : List (Entry α)}

/-- Records are entries under their own ids. -/
theorem Sound.entries_eq (h : c.Sound idOf) :
    c.records.entries = c.records.values.map fun record => (idOf record, record) := by
  rw [SortedMap.values, List.map_map]
  refine (List.map_id' _).symm.trans (List.map_congr_left ?_)
  rintro ⟨id, record⟩ hmem
  have hid := h.id_eq ((SortedMap.mem_entries_iff Int.lt_irrefl).mp hmem)
  simp only [Function.comp_apply, hid]

/-- A collection that is what its log makes of the empty one is read like the log. -/
theorem Sound.readsLog (h : c.Sound idOf) (hlog : c = empty.replay log) :
    ReadsLog idOf log c.records.get? c.records.values where
  get?_eq id := by rw [hlog, get?_replay_empty]
  ascending := by
    have hsorted := c.records.sorted
    rw [h.entries_eq, KeysIncrease, List.pairwise_map] at hsorted
    exact hsorted
  mem_iff record := by
    have hentry : (idOf record, record) ∈ c.records.entries ↔ record ∈ c.records.values := by
      rw [h.entries_eq, List.mem_map]
      constructor
      · rintro ⟨other, hmem, heq⟩
        obtain rfl : other = record := congrArg Prod.snd heq
        exact hmem
      · exact fun hmem => ⟨record, hmem, rfl⟩
    rw [← hentry, SortedMap.mem_entries_iff Int.lt_irrefl, ← get?_replay_empty, ← hlog]

end Collection

namespace Change

/-- The changes of agents. -/
def OfAgents : Change → Prop
  | createAgent _ | insertAgent _ | updateAgent _ _ | deleteAgent _ => True
  | createWorkflow _ | insertWorkflow _ | deleteWorkflow _ | seed _ => False

/-- The changes of workflows. -/
def OfWorkflows : Change → Prop
  | createWorkflow _ | insertWorkflow _ | deleteWorkflow _ => True
  | createAgent _ | insertAgent _ | updateAgent _ _ | deleteAgent _ | seed _ => False

end Change

namespace Store

/-- The roster of sound agents is the agents. -/
theorem roster_eq {store : Store} (h : store.agentCollection.Sound Agent.id) :
    store.roster = store.agents := by
  calc store.roster
      = SortedMap.ofList (store.agents.values.map fun agent => (agent.id, agent)) := rfl
    _ = SortedMap.ofList store.agents.entries := congrArg SortedMap.ofList h.entries_eq.symm
    _ = store.agents := SortedMap.ofList_entries Int.lt_irrefl store.agents

/-- Changes of agents leave the workflows alone. -/
theorem workflowCollection_change_ofAgents (store : Store) (now : Instant) {c : Change}
    (hc : c.OfAgents) : (store.change now c).workflowCollection = store.workflowCollection := by
  have hentries : c.workflowEntries store now = [] := by cases c <;> first | rfl | cases hc
  rw [workflowCollection_change, hentries]
  rfl

/-- Changes of workflows leave the agents alone. -/
theorem agentCollection_change_ofWorkflows (store : Store) (now : Instant) {c : Change}
    (hc : c.OfWorkflows) : (store.change now c).agentCollection = store.agentCollection := by
  have hentries : c.agentEntries store now = [] := by cases c <;> first | rfl | cases hc
  rw [agentCollection_change, hentries]
  rfl

/-- A change of an agent tells whether it was there; if not, the store stays as it is. -/
theorem updateAgent_tells (store : Store) (id : Int) (patch : AgentPatch) (now : Instant) :
    (store.updateAgent id patch now).1 = (store.agent? id).map (·.apply patch now) ∧
      (store.agent? id = none → (store.updateAgent id patch now).2 = store) := by
  cases h : store.agent? id with
  | none => exact ⟨by rw [updateAgent_of_none h]; rfl, fun _ => by rw [updateAgent_of_none h]⟩
  | some agent => exact ⟨by rw [updateAgent_of_some h]; rfl, nofun⟩

/-- A deletion of an agent tells whether it was there; if not, the store stays as it is. -/
theorem deleteAgent_tells (store : Store) (id : Int) :
    (store.deleteAgent id).1 = (store.agent? id).isSome ∧
      (store.agent? id = none → (store.deleteAgent id).2 = store) := by
  cases h : store.agent? id with
  | none => exact ⟨by rw [deleteAgent_of_none h]; rfl, fun _ => by rw [deleteAgent_of_none h]⟩
  | some agent => exact ⟨by rw [deleteAgent_of_some h]; rfl, nofun⟩

/-- A deletion of a workflow tells whether it was there; if not, the store stays as it is. -/
theorem deleteWorkflow_tells (store : Store) (id : Int) :
    (store.deleteWorkflow id).1 = (store.workflow? id).isSome ∧
      (store.workflow? id = none → (store.deleteWorkflow id).2 = store) := by
  cases h : store.workflow? id with
  | none =>
    exact ⟨by rw [deleteWorkflow_of_none h]; rfl, fun _ => by rw [deleteWorkflow_of_none h]⟩
  | some workflow => exact ⟨by rw [deleteWorkflow_of_some h]; rfl, nofun⟩

/-- **Reads.** After any changes of an empty store, both collections are read like their logs, and
the roster like the agents. No change of one collection touches the other one or its greatest id,
and changes of records that are not there say so and change nothing. -/
theorem reads_ofHistory (history : List (Instant × Change)) :
    let store := ofHistory history
    ReadsLog Agent.id (empty.agentLog history) store.agent? store.listAgents ∧
    ReadsLog Workflow.id (empty.workflowLog history) store.workflow? store.listWorkflows ∧
    (∀ id, store.roster.get? id = store.agent? id) ∧
    store.roster.size = store.listAgents.length ∧
    (∀ now (c : Change), c.OfAgents →
      (store.change now c).workflowCollection = store.workflowCollection) ∧
    (∀ now (c : Change), c.OfWorkflows →
      (store.change now c).agentCollection = store.agentCollection) ∧
    (∀ id patch now,
      (store.updateAgent id patch now).1 = (store.agent? id).map (·.apply patch now) ∧
        (store.agent? id = none → (store.updateAgent id patch now).2 = store)) ∧
    (∀ id,
      (store.deleteAgent id).1 = (store.agent? id).isSome ∧
        (store.agent? id = none → (store.deleteAgent id).2 = store)) ∧
    ∀ id,
      (store.deleteWorkflow id).1 = (store.workflow? id).isSome ∧
        (store.workflow? id = none → (store.deleteWorkflow id).2 = store) := by
  intro store
  obtain ⟨hagents, hworkflows⟩ := sound_ofHistory history
  have hagentReads : ReadsLog Agent.id _ store.agent? store.listAgents :=
    hagents.readsLog (agentCollection_replay empty history)
  have hworkflowReads : ReadsLog Workflow.id _ store.workflow? store.listWorkflows :=
    hworkflows.readsLog (workflowCollection_replay empty history)
  have hroster : store.roster = store.agents := roster_eq hagents
  refine ⟨hagentReads, hworkflowReads, fun id => ?_, ?_,
    fun now c => workflowCollection_change_ofAgents store now,
    fun now c => agentCollection_change_ofWorkflows store now,
    updateAgent_tells store, deleteAgent_tells store, deleteWorkflow_tells store⟩
  · rw [hroster, agent?]
  · rw [hroster, SortedMap.size, listAgents, SortedMap.values, List.length_map]

end Store

end AgentFlow
