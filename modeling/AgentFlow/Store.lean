import AgentFlow.Catalog

/-!
# Record stores

Agents and workflows by id. A new record gets the id after the greatest one that its collection has
ever held, so that no id is used twice; a record that brings its own id replaces the one there.
-/

namespace AgentFlow

open Time

/-- The records, and the greatest id that each collection has held. -/
structure Store where
  agents : SortedMap Int Agent
  workflows : SortedMap Int Workflow
  lastAgentId : Int
  lastWorkflowId : Int

namespace Store

/-- The store without records. -/
def empty : Store := ⟨.empty, .empty, 0, 0⟩

/-! ### Agents -/

/-- Makes an agent of a draft. -/
def createAgent (store : Store) (draft : AgentDraft) (now : Instant) : Agent × Store :=
  let agent := Agent.ofDraft (store.lastAgentId + 1) draft now
  (agent,
    { store with lastAgentId := agent.id, agents := store.agents.insert agent.id agent })

/-- Puts an agent under its own id. -/
def insertAgent (store : Store) (agent : Agent) : Store :=
  { store with
    lastAgentId := max store.lastAgentId agent.id
    agents := store.agents.insert agent.id agent }

/-- The agent with an id. -/
def agent? (store : Store) (id : Int) : Option Agent := store.agents.get? id

/-- All agents by id. -/
def listAgents (store : Store) : List Agent := store.agents.values

/-- Changes an agent, if it is there, and gives it as it is then. -/
def updateAgent (store : Store) (id : Int) (patch : AgentPatch) (now : Instant) :
    Option Agent × Store :=
  match store.agent? id with
  | none => (none, store)
  | some agent =>
    let agent := agent.apply patch now
    (some agent, { store with agents := store.agents.insert id agent })

/-- Takes an agent away, and tells whether it was there. -/
def deleteAgent (store : Store) (id : Int) : Bool × Store :=
  match store.agent? id with
  | none => (false, store)
  | some _ => (true, { store with agents := store.agents.erase id })

/-- The agents there are, for compiling workflows against. -/
def roster (store : Store) : Roster := .ofAgents store.listAgents

/-! ### Workflows -/

/-- Makes a workflow of a draft. -/
def createWorkflow (store : Store) (draft : WorkflowDraft) (now : Instant) : Workflow × Store :=
  let workflow := Workflow.ofDraft (store.lastWorkflowId + 1) draft now
  (workflow,
    { store with
      lastWorkflowId := workflow.id
      workflows := store.workflows.insert workflow.id workflow })

/-- Puts a workflow under its own id. -/
def insertWorkflow (store : Store) (workflow : Workflow) : Store :=
  { store with
    lastWorkflowId := max store.lastWorkflowId workflow.id
    workflows := store.workflows.insert workflow.id workflow }

/-- The workflow with an id. -/
def workflow? (store : Store) (id : Int) : Option Workflow := store.workflows.get? id

/-- All workflows by id. -/
def listWorkflows (store : Store) : List Workflow := store.workflows.values

/-- Takes a workflow away, and tells whether it was there. -/
def deleteWorkflow (store : Store) (id : Int) : Bool × Store :=
  match store.workflow? id with
  | none => (false, store)
  | some _ => (true, { store with workflows := store.workflows.erase id })

/-! ### Catalogs -/

/-- Puts the records of a catalog under their own ids: of equal ids the last one counts. -/
def seed (store : Store) (catalog : Catalog) : Store :=
  catalog.workflows.foldl insertWorkflow (catalog.agents.foldl insertAgent store)

end Store

end AgentFlow
