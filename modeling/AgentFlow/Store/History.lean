import AgentFlow.Store

/-!
# Histories of a store

The changes of a store as data. A store is what its history makes of the empty one, whichever client
made each change.
-/

namespace AgentFlow

open Time

/-- A change of a store. -/
inductive Change where
  | createAgent (draft : AgentDraft)
  | insertAgent (agent : Agent)
  | updateAgent (id : Int) (patch : AgentPatch)
  | deleteAgent (id : Int)
  | createWorkflow (draft : WorkflowDraft)
  | insertWorkflow (workflow : Workflow)
  | deleteWorkflow (id : Int)
  | seed (catalog : Catalog)

namespace Store

/-- The store after a change at an instant. -/
def change (store : Store) (now : Instant) : Change → Store
  | .createAgent draft => (store.createAgent draft now).2
  | .insertAgent agent => store.insertAgent agent
  | .updateAgent id patch => (store.updateAgent id patch now).2
  | .deleteAgent id => (store.deleteAgent id).2
  | .createWorkflow draft => (store.createWorkflow draft now).2
  | .insertWorkflow workflow => store.insertWorkflow workflow
  | .deleteWorkflow id => (store.deleteWorkflow id).2
  | .seed catalog => store.seed catalog

/-- The store after changes, from the first to the last. -/
def replay (store : Store) (history : List (Instant × Change)) : Store :=
  history.foldl (fun store (now, c) => store.change now c) store

/-- The store that a history makes of the empty one. -/
def ofHistory (history : List (Instant × Change)) : Store := empty.replay history

end Store

end AgentFlow
