import AgentFlow.Proofs.Store.Ledger
import AgentFlow.Store.History

/-!
# The log of a store

A history of a store leaves a log for each of its two collections: what each change did to the
collection, as whoever made the change was told. Changes of agents leave no trace in the log of the
workflows, nor the other way round, and a change of a record that is not there leaves none at all.
Each collection is what its log makes of the empty one.
-/

namespace AgentFlow

open Time

namespace Change

/-- What a change does to the agents of a store. -/
def agentEntries (store : Store) (now : Instant) : Change → List (Entry Agent)
  | createAgent draft =>
    let agent := (store.createAgent draft now).1
    [.entered agent.id agent]
  | insertAgent agent => [.entered agent.id agent]
  | updateAgent id patch => ((store.updateAgent id patch now).1.map (.changed id)).toList
  | deleteAgent id => if (store.deleteAgent id).1 then [.removed id] else []
  | seed catalog => catalog.agents.map fun agent => .entered agent.id agent
  | createWorkflow _ | insertWorkflow _ | deleteWorkflow _ => []

/-- What a change does to the workflows of a store. -/
def workflowEntries (store : Store) (now : Instant) : Change → List (Entry Workflow)
  | createWorkflow draft =>
    let workflow := (store.createWorkflow draft now).1
    [.entered workflow.id workflow]
  | insertWorkflow workflow => [.entered workflow.id workflow]
  | deleteWorkflow id => if (store.deleteWorkflow id).1 then [.removed id] else []
  | seed catalog => catalog.workflows.map fun workflow => .entered workflow.id workflow
  | createAgent _ | insertAgent _ | updateAgent _ _ | deleteAgent _ => []

end Change

namespace Store

/-- What a history does to the agents of a store. -/
def agentLog (store : Store) : List (Instant × Change) → List (Entry Agent)
  | [] => []
  | (now, c) :: rest => c.agentEntries store now ++ (store.change now c).agentLog rest

/-- What a history does to the workflows of a store. -/
def workflowLog (store : Store) : List (Instant × Change) → List (Entry Workflow)
  | [] => []
  | (now, c) :: rest => c.workflowEntries store now ++ (store.change now c).workflowLog rest

/-- The agents of a store, with the greatest id they have had. -/
def agentCollection (store : Store) : Collection Agent := ⟨store.agents, store.lastAgentId⟩

/-- The workflows of a store, with the greatest id they have had. -/
def workflowCollection (store : Store) : Collection Workflow :=
  ⟨store.workflows, store.lastWorkflowId⟩

variable {store : Store}

/-! ### Changes of records that are there or not -/

/-- An agent that is not there is not changed, and nothing else is. -/
theorem updateAgent_of_none {id : Int} (h : store.agent? id = none) (patch : AgentPatch)
    (now : Instant) : store.updateAgent id patch now = (none, store) := by
  rw [updateAgent, h]

/-- An agent that is there is patched. -/
theorem updateAgent_of_some {id : Int} {agent : Agent} (h : store.agent? id = some agent)
    (patch : AgentPatch) (now : Instant) :
    store.updateAgent id patch now =
      (some (agent.apply patch now),
        { store with agents := store.agents.insert id (agent.apply patch now) }) := by
  rw [updateAgent, h]

/-- An agent that is not there is not taken away, and nothing else is. -/
theorem deleteAgent_of_none {id : Int} (h : store.agent? id = none) :
    store.deleteAgent id = (false, store) := by
  rw [deleteAgent, h]

/-- An agent that is there is taken away. -/
theorem deleteAgent_of_some {id : Int} {agent : Agent} (h : store.agent? id = some agent) :
    store.deleteAgent id = (true, { store with agents := store.agents.erase id }) := by
  rw [deleteAgent, h]

/-- A workflow that is not there is not taken away, and nothing else is. -/
theorem deleteWorkflow_of_none {id : Int} (h : store.workflow? id = none) :
    store.deleteWorkflow id = (false, store) := by
  rw [deleteWorkflow, h]

/-- A workflow that is there is taken away. -/
theorem deleteWorkflow_of_some {id : Int} {workflow : Workflow}
    (h : store.workflow? id = some workflow) :
    store.deleteWorkflow id = (true, { store with workflows := store.workflows.erase id }) := by
  rw [deleteWorkflow, h]

/-! ### Single changes -/

/-- Agents that are inserted are entered one after another. -/
theorem agentCollection_foldl_insertAgent (store : Store) (agents : List Agent) :
    (agents.foldl insertAgent store).agentCollection =
      store.agentCollection.replay (agents.map fun agent => .entered agent.id agent) := by
  induction agents generalizing store with
  | nil => rfl
  | cons agent rest ih => exact ih (store.insertAgent agent)

/-- Workflows that are inserted are entered one after another. -/
theorem workflowCollection_foldl_insertWorkflow (store : Store) (workflows : List Workflow) :
    (workflows.foldl insertWorkflow store).workflowCollection =
      store.workflowCollection.replay
        (workflows.map fun workflow => .entered workflow.id workflow) := by
  induction workflows generalizing store with
  | nil => rfl
  | cons workflow rest ih => exact ih (store.insertWorkflow workflow)

/-- Workflows that are inserted leave the agents alone. -/
theorem agentCollection_foldl_insertWorkflow (store : Store) (workflows : List Workflow) :
    (workflows.foldl insertWorkflow store).agentCollection = store.agentCollection := by
  induction workflows generalizing store with
  | nil => rfl
  | cons workflow rest ih => exact ih (store.insertWorkflow workflow)

/-- Agents that are inserted leave the workflows alone. -/
theorem workflowCollection_foldl_insertAgent (store : Store) (agents : List Agent) :
    (agents.foldl insertAgent store).workflowCollection = store.workflowCollection := by
  induction agents generalizing store with
  | nil => rfl
  | cons agent rest ih => exact ih (store.insertAgent agent)

/-- A change does to the agents what the log says. -/
theorem agentCollection_change (store : Store) (now : Instant) (c : Change) :
    (store.change now c).agentCollection =
      store.agentCollection.replay (c.agentEntries store now) := by
  cases c with
  | createAgent draft =>
    have hlast : max store.lastAgentId (store.lastAgentId + 1) = store.lastAgentId + 1 := by omega
    simp only [change, createAgent, agentCollection, Change.agentEntries, Collection.replay,
      List.foldl_cons, List.foldl_nil, Collection.enter, Agent.ofDraft, hlast]
  | insertAgent agent => rfl
  | updateAgent id patch =>
    cases h : store.agent? id with
    | none => simp only [change, Change.agentEntries, updateAgent_of_none h]; rfl
    | some agent => simp only [change, Change.agentEntries, updateAgent_of_some h]; rfl
  | deleteAgent id =>
    cases h : store.agent? id with
    | none => simp only [change, Change.agentEntries, deleteAgent_of_none h]; rfl
    | some agent => simp only [change, Change.agentEntries, deleteAgent_of_some h]; rfl
  | createWorkflow draft => rfl
  | insertWorkflow workflow => rfl
  | deleteWorkflow id =>
    cases h : store.workflow? id with
    | none => simp only [change, Change.agentEntries, deleteWorkflow_of_none h]; rfl
    | some workflow => simp only [change, Change.agentEntries, deleteWorkflow_of_some h]; rfl
  | seed catalog =>
    rw [change, seed, agentCollection_foldl_insertWorkflow, agentCollection_foldl_insertAgent]
    rfl

/-- A change does to the workflows what the log says. -/
theorem workflowCollection_change (store : Store) (now : Instant) (c : Change) :
    (store.change now c).workflowCollection =
      store.workflowCollection.replay (c.workflowEntries store now) := by
  cases c with
  | createWorkflow draft =>
    have hlast : max store.lastWorkflowId (store.lastWorkflowId + 1) =
        store.lastWorkflowId + 1 := by omega
    simp only [change, createWorkflow, workflowCollection, Change.workflowEntries,
      Collection.replay, List.foldl_cons, List.foldl_nil, Collection.enter, Workflow.ofDraft, hlast]
  | insertWorkflow workflow => rfl
  | deleteWorkflow id =>
    cases h : store.workflow? id with
    | none => simp only [change, Change.workflowEntries, deleteWorkflow_of_none h]; rfl
    | some workflow => simp only [change, Change.workflowEntries, deleteWorkflow_of_some h]; rfl
  | createAgent draft => rfl
  | insertAgent agent => rfl
  | updateAgent id patch =>
    cases h : store.agent? id with
    | none => simp only [change, Change.workflowEntries, updateAgent_of_none h]; rfl
    | some agent => simp only [change, Change.workflowEntries, updateAgent_of_some h]; rfl
  | deleteAgent id =>
    cases h : store.agent? id with
    | none => simp only [change, Change.workflowEntries, deleteAgent_of_none h]; rfl
    | some agent => simp only [change, Change.workflowEntries, deleteAgent_of_some h]; rfl
  | seed catalog =>
    rw [change, seed, workflowCollection_foldl_insertWorkflow,
      workflowCollection_foldl_insertAgent]
    rfl

/-- A change keeps the agents sound. -/
theorem sound_agentCollection_change (h : store.agentCollection.Sound Agent.id) (now : Instant)
    (c : Change) : (store.change now c).agentCollection.Sound Agent.id := by
  rw [agentCollection_change]
  cases c with
  | createAgent draft => exact h.enter (e := .entered _ _) rfl
  | insertAgent agent => exact h.enter (e := .entered _ _) rfl
  | updateAgent id patch =>
    cases hfound : store.agent? id with
    | none =>
      simp only [Change.agentEntries, updateAgent_of_none hfound]
      exact h
    | some agent =>
      have hid : agent.id = id := h.id_eq hfound
      simp only [Change.agentEntries, updateAgent_of_some hfound]
      exact h.enter (e := .changed id _) ⟨hid, agent, hfound⟩
  | deleteAgent id =>
    simp only [Change.agentEntries]
    split
    · exact h.enter (e := .removed id) trivial
    · exact h
  | createWorkflow _ | insertWorkflow _ | deleteWorkflow _ => exact h
  | seed catalog => exact h.replay_entered catalog.agents

/-- A change keeps the workflows sound. -/
theorem sound_workflowCollection_change (h : store.workflowCollection.Sound Workflow.id)
    (now : Instant) (c : Change) :
    (store.change now c).workflowCollection.Sound Workflow.id := by
  rw [workflowCollection_change]
  cases c with
  | createWorkflow draft => exact h.enter (e := .entered _ _) rfl
  | insertWorkflow workflow => exact h.enter (e := .entered _ _) rfl
  | deleteWorkflow id =>
    simp only [Change.workflowEntries]
    split
    · exact h.enter (e := .removed id) trivial
    · exact h
  | createAgent _ | insertAgent _ | updateAgent _ _ | deleteAgent _ => exact h
  | seed catalog => exact h.replay_entered catalog.workflows

/-! ### Histories -/

/-- A change is made after a history. -/
theorem replay_cons (store : Store) (now : Instant) (c : Change)
    (history : List (Instant × Change)) :
    store.replay ((now, c) :: history) = (store.change now c).replay history := rfl

/-- A history makes of the agents what its log does. -/
theorem agentCollection_replay (store : Store) (history : List (Instant × Change)) :
    (store.replay history).agentCollection =
      store.agentCollection.replay (store.agentLog history) := by
  induction history generalizing store with
  | nil => rfl
  | cons step rest ih =>
    obtain ⟨now, c⟩ := step
    rw [replay_cons, ih, agentCollection_change, agentLog, Collection.replay_append]

/-- A history makes of the workflows what its log does. -/
theorem workflowCollection_replay (store : Store) (history : List (Instant × Change)) :
    (store.replay history).workflowCollection =
      store.workflowCollection.replay (store.workflowLog history) := by
  induction history generalizing store with
  | nil => rfl
  | cons step rest ih =>
    obtain ⟨now, c⟩ := step
    rw [replay_cons, ih, workflowCollection_change, workflowLog, Collection.replay_append]

/-- Both collections are sound after any history of the empty store. -/
theorem sound_ofHistory (history : List (Instant × Change)) :
    (ofHistory history).agentCollection.Sound Agent.id ∧
      (ofHistory history).workflowCollection.Sound Workflow.id := by
  have hrun (store : Store) (hagents : store.agentCollection.Sound Agent.id)
      (hworkflows : store.workflowCollection.Sound Workflow.id) :
      (store.replay history).agentCollection.Sound Agent.id ∧
        (store.replay history).workflowCollection.Sound Workflow.id := by
    induction history generalizing store with
    | nil => exact ⟨hagents, hworkflows⟩
    | cons step rest ih =>
      obtain ⟨now, c⟩ := step
      exact ih _ (sound_agentCollection_change hagents now c)
        (sound_workflowCollection_change hworkflows now c)
  exact hrun empty Collection.sound_empty Collection.sound_empty

end Store

end AgentFlow
