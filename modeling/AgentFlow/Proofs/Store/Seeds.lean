import AgentFlow.Proofs.Catalog
import AgentFlow.Proofs.Roster
import AgentFlow.Proofs.Store.Reads
import AgentFlow.Proofs.Task.Reference

/-!
# Seeded stores

In a store that is seeded with a catalog the last record of each id counts. A workflow compiles
against the agents alike whenever the catalog was read: its steps have the same ids, instructions
and agents, but for times.
-/

namespace AgentFlow

open Number

/-- Agents that are inserted are those of a roster that they are put into. -/
theorem Store.agents_foldl_insertAgent (store : Store) (agents : List Agent) :
    (agents.foldl insertAgent store).agents =
      store.agents.insertMany (agents.map fun agent => (agent.id, agent)) := by
  induction agents generalizing store with
  | nil => rfl
  | cons agent rest ih => exact ih (store.insertAgent agent)

/-- The roster of a seeded store is that of the catalog's agents. -/
theorem Store.roster_seed (catalog : Catalog) :
    (empty.seed catalog).roster = .ofAgents catalog.agents := by
  have hsound : (empty.seed catalog).agentCollection.Sound Agent.id :=
    sound_agentCollection_change Collection.sound_empty ⟨⟨0, 1, 1⟩, 0, 0, 0⟩ (.seed catalog)
  have hagents := agentCollection_foldl_insertWorkflow
    (catalog.agents.foldl insertAgent empty) catalog.workflows
  rw [roster_eq hsound]
  exact (congrArg Collection.records hagents).trans (agents_foldl_insertAgent empty catalog.agents)

/-- Of the workflows with one id the last one is there. -/
theorem Store.workflow?_seed (catalog : Catalog) (id : Int) :
    (empty.seed catalog).workflow? id = catalog.workflows.reverse.find? (·.id = id) := by
  have hworkflows : (empty.seed catalog).workflowCollection = Collection.empty.replay
      (catalog.workflows.map fun workflow => .entered workflow.id workflow) := by
    refine (workflowCollection_foldl_insertWorkflow _ catalog.workflows).trans ?_
    rw [workflowCollection_foldl_insertAgent]
    rfl
  have hget : (empty.seed catalog).workflow? id = _ :=
    congrArg (fun c => c.records.get? id) hworkflows
  rw [hget, Collection.get?_replay_empty, recordIn?, ← List.map_reverse, List.find?_map]
  have hid : ((fun e => decide (e.id = id)) ∘ fun workflow : Workflow =>
      Entry.entered workflow.id workflow) = fun workflow => decide (workflow.id = id) := rfl
  rw [hid, Option.bind_map]
  exact Option.bind_fun_some _

/-- Of related lists, whose related elements are looked for alike, related elements are found. -/
theorem find?_rel {α β : Type} {R : α → β → Prop} {p : α → Bool} {q : β → Bool}
    (hpq : ∀ x y, R x y → p x = q y) {xs : List α} {ys : List β} (h : List.Forall₂ R xs ys) :
    Option.Rel R (xs.find? p) (ys.find? q) := by
  induction h with
  | nil => exact .none
  | @cons x y xs ys hxy _ ih =>
    rw [List.find?_cons, List.find?_cons, ← hpq x y hxy]
    cases p x with
    | true => exact .some hxy
    | false => exact ih

/-- The steps are the same but for the times of their agents. -/
structure Node.SameButTimes (node other : Node) : Prop where
  id : other.id = node.id
  instruction : other.instruction = node.instruction
  agent : node.agent.SameButTimes other.agent

/-- Agents that are the same but for times are found under the same ids. -/
theorem Roster.get?_ofAgents_rel {agents others : List Agent}
    (h : List.Forall₂ Agent.SameButTimes agents others) (id : Int) :
    Option.Rel Agent.SameButTimes ((ofAgents agents).get? id) ((ofAgents others).get? id) := by
  rw [get?_ofAgents, get?_ofAgents]
  refine find?_rel (fun agent other hsame => ?_) (List.rel_reverse h)
  simp only [hsame.id_eq]

/-- The steps for tasks are the same but for times. -/
theorem nodesFrom_sameButTimes {agents others : List Agent}
    (h : List.Forall₂ Agent.SameButTimes agents others) (start : Nat) (tasks : List Task) :
    List.Forall₂ Node.SameButTimes (nodesFrom (.ofAgents agents) start tasks)
      (nodesFrom (.ofAgents others) start tasks) := by
  induction tasks generalizing start with
  | nil => exact .nil
  | cons task rest ih =>
    rw [nodesFrom, nodesFrom]
    refine List.rel_append ?_ (ih (start + 1))
    rw [Task.node?, Task.node?, Roster.resolve, Roster.resolve]
    cases task.agentId with
    | none => exact .nil
    | some id =>
      have hfound := Roster.get?_ofAgents_rel h id
      rw [Option.bind_some, Option.bind_some]
      generalize (Roster.ofAgents agents).get? id = agent?,
        (Roster.ofAgents others).get? id = other? at hfound ⊢
      cases hfound with
      | none => exact .nil
      | some hsame => exact .cons ⟨congrArg (Node.idAt start) hsame.name_eq, rfl, hsame⟩ .nil

/-- A workflow that compiles does so whenever its catalog was read, to the same steps but for
times. -/
theorem Workflow.compile_sameButTimes {agents others : List Agent}
    (hagents : List.Forall₂ Agent.SameButTimes agents others) {workflow other : Workflow}
    (hsame : workflow.SameButTimes other) {chain : Chain}
    (hcompile : workflow.compile (.ofAgents agents) = .ok chain) :
    ∃ chain', other.compile (.ofAgents others) = .ok chain' ∧
      List.Forall₂ Node.SameButTimes chain.nodes chain'.nodes := by
  cases htasks : workflow.tasks.normalize with
  | error e =>
    rw [compile_of_normalize_error htasks] at hcompile
    cases hcompile
  | ok tasks =>
    have hnodes := nodesFrom_sameButTimes hagents 0 tasks
    rw [← nodesOf_compile htasks, hcompile, Chain.nodesOf] at hnodes
    have htasks' : other.tasks.normalize = .ok tasks := hsame.tasks_eq ▸ htasks
    have hne : nodesFrom (.ofAgents others) 0 tasks ≠ [] := by
      intro hnil
      rw [hnil] at hnodes
      exact chain.nonempty (List.forall₂_nil_right_iff.mp hnodes)
    obtain ⟨chain', hcompile', -, hnodes'⟩ := exists_compile_of_ne_nil htasks' hne
    exact ⟨chain', hcompile', hnodes'.symm ▸ hnodes⟩

end AgentFlow
