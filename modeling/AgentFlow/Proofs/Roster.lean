import AgentFlow.Proofs.Compile
import AgentFlow.Proofs.Task.Order
import AgentFlow.Proofs.Task.Reference

/-!
# Compiling against other rosters

What becomes of a workflow when an agent goes away. Its steps are left out, and the others stay as
they are, since the positions in their ids count all tasks, also those that are passed over. An
agent whom no task refers to has no part in the workflow, whether it comes or goes.
-/

namespace AgentFlow

namespace Roster

/-- The roster of agents without those of an id. -/
def without (agents : List Agent) (i : Int) : Roster :=
  ofAgents (agents.filter fun agent => agent.id ≠ i)

/-- In a roster of agents each one is found under its own id. -/
theorem id_of_get?_ofAgents {agents : List Agent} {agent : Agent} {i : Int}
    (h : (ofAgents agents).get? i = some agent) : agent.id = i := by
  rw [get?_ofAgents] at h
  simpa using List.find?_some h

/-- The agent of an id is gone, and the others are still there. -/
theorem get?_without (agents : List Agent) (i j : Int) :
    (without agents i).get? j = if j = i then none else (ofAgents agents).get? j := by
  rw [without, get?_ofAgents, get?_ofAgents, ← List.filter_reverse, List.find?_filter]
  by_cases hj : j = i
  · rw [if_pos hj, List.find?_eq_none]
    intro agent _
    simp [hj]
  · rw [if_neg hj]
    congr 1
    funext agent
    by_cases hid : agent.id = j <;> simp [hid, hj]

/-- A new agent is found under its id, and the others are still there. -/
theorem get?_ofAgents_concat (agents : List Agent) (agent : Agent) (j : Int) :
    (ofAgents (agents ++ [agent])).get? j =
      if j = agent.id then some agent else (ofAgents agents).get? j := by
  rw [get?_ofAgents, get?_ofAgents, List.reverse_concat, List.find?_cons]
  by_cases hj : j = agent.id
  · simp [hj]
  · simp [hj, Ne.symm hj]

/-- A task finds the agent it refers to in every roster that has the same agents under all ids but
one that the task does not refer to. -/
theorem resolve_congr {roster other : Roster} {task : Task} {i : Int}
    (htask : task.agentId ≠ some i) (h : ∀ j, j ≠ i → roster.get? j = other.get? j) :
    roster.resolve task = other.resolve task := by
  unfold Roster.resolve
  cases hagent : task.agentId with
  | none => rfl
  | some j =>
    have hj : j ≠ i := by
      rintro rfl
      exact htask hagent
    exact h j hj

end Roster

/-- The step for a task stays unless its agent is the one that has gone. -/
theorem Task.node?_without (agents : List Agent) (i : Int) (position : Nat) (task : Task) :
    task.node? (.without agents i) position =
      (task.node? (.ofAgents agents) position).filter fun node => node.agent.id ≠ i := by
  unfold Task.node? Roster.resolve
  cases hagent : task.agentId with
  | none => rfl
  | some j =>
    rw [Option.bind_some, Option.bind_some, Roster.get?_without]
    cases hfound : (Roster.ofAgents agents).get? j with
    | none => simp
    | some agent =>
      have hid : agent.id = j := Roster.id_of_get?_ofAgents hfound
      by_cases hj : j = i <;> simp [Option.filter, hid, hj]

/-- The steps for tasks stay, those of the agent that has gone aside. -/
theorem nodesFrom_without (agents : List Agent) (i : Int) (start : Nat) (tasks : List Task) :
    nodesFrom (.without agents i) start tasks =
      (nodesFrom (.ofAgents agents) start tasks).filter fun node => node.agent.id ≠ i := by
  rw [nodesFrom_eq_filterMap, nodesFrom_eq_filterMap, List.filter_filterMap]
  congr 1
  funext entry
  exact Task.node?_without agents i entry.2 entry.1

/-- The steps for tasks are the same if the agents that the tasks refer to are. -/
theorem nodesFrom_congr {roster other : Roster} {tasks : List Task}
    (h : ∀ task ∈ tasks, roster.resolve task = other.resolve task) (start : Nat) :
    nodesFrom roster start tasks = nodesFrom other start tasks := by
  rw [nodesFrom_eq_filterMap, nodesFrom_eq_filterMap]
  apply List.filterMap_congr
  rintro ⟨task, position⟩ hentry
  have htask : roster.resolve task = other.resolve task :=
    h task (List.fst_mem_of_mem_zipIdx hentry)
  simp only [Task.node?, htask]

/-- The steps of a chain; there are none where there is no chain. -/
def Chain.nodesOf : Except WorkflowError Chain → List Node
  | .ok chain => chain.nodes
  | .error _ => []

namespace Workflow

variable {workflow : Workflow} {tasks : List Task}

/-- A workflow compiles to one chain against two rosters, or fails with one failure, and its runs
are the same. -/
structure Alike (workflow : Workflow) (roster other : Roster) : Prop where
  compile_eq : workflow.compile roster = workflow.compile other
  run_eq {σ : Type} (worker : Worker σ) (initial : ExecutionState) (memory : σ) :
    workflow.run roster worker initial memory = workflow.run other worker initial memory

/-- Runs are the same if the chains are. -/
theorem Alike.of_compile_eq {roster other : Roster}
    (h : workflow.compile roster = workflow.compile other) : workflow.Alike roster other where
  compile_eq := h
  run_eq := run_congr h

/-- The steps of a compiled workflow are those for its tasks. -/
theorem nodesOf_compile (htasks : workflow.tasks.normalize = .ok tasks) (roster : Roster) :
    Chain.nodesOf (workflow.compile roster) = nodesFrom roster 0 tasks := by
  by_cases hnodes : nodesFrom roster 0 tasks = []
  · rw [compile_of_normalize htasks, hnodes, Chain.assemble_nil, Chain.nodesOf]
  · obtain ⟨chain, hok, _, hmade⟩ := exists_compile_of_ne_nil htasks hnodes
    rw [hok, Chain.nodesOf, hmade]

/-- A workflow is refused as empty exactly if its tasks have no step. -/
theorem compile_eq_emptyChain_iff {roster : Roster}
    (htasks : workflow.tasks.normalize = .ok tasks) :
    workflow.compile roster = .error (.emptyChain workflow.name) ↔
      nodesFrom roster 0 tasks = [] := by
  rw [compile_of_normalize htasks]
  exact Chain.assemble_eq_emptyChain_iff

/-- A workflow compiles alike against rosters that have the same agents under all ids but one that
none of its tasks refers to. -/
theorem alike_of_get? {roster other : Roster} {i : Int}
    (hunreferenced : ∀ tasks, workflow.tasks.normalize = .ok tasks →
      ∀ task ∈ tasks, task.agentId ≠ some i)
    (h : ∀ j, j ≠ i → roster.get? j = other.get? j) : workflow.Alike roster other := by
  apply Alike.of_compile_eq
  cases htasks : workflow.tasks.normalize with
  | error e => rw [compile_of_normalize_error htasks, compile_of_normalize_error htasks]
  | ok tasks =>
    have hsame : ∀ task ∈ tasks, roster.resolve task = other.resolve task := fun task hmem =>
      Roster.resolve_congr (hunreferenced tasks htasks task hmem) h
    rw [compile_of_normalize htasks, compile_of_normalize htasks, nodesFrom_congr hsame 0]

/-- **Agents that go away.** If the tasks of a workflow are not normalized, it fails for that reason
whether an agent is there or not. Otherwise its steps without the agent are those with the agent, in
their order and with their ids, agents and instructions, but for the steps of that agent; if none is
left, it is refused as empty. If no task refers to the agent, its chain and its runs are the same
with the agent and without. -/
theorem compile_without (workflow : Workflow) (agents : List Agent) (i : Int) :
    (∀ e, workflow.tasks.normalize = .error e →
      workflow.compile (.ofAgents agents) = .error e ∧
      workflow.compile (.without agents i) = .error e) ∧
    (∀ tasks, workflow.tasks.normalize = .ok tasks →
      let remaining := (Chain.nodesOf (workflow.compile (.ofAgents agents))).filter
        fun node => node.agent.id ≠ i
      Chain.nodesOf (workflow.compile (.without agents i)) = remaining ∧
      (workflow.compile (.without agents i) = .error (.emptyChain workflow.name) ↔
        remaining = []) ∧
      (remaining ≠ [] → ∃ chain, workflow.compile (.without agents i) = .ok chain ∧
        chain.name = workflow.name ∧ chain.nodes = remaining)) ∧
    ((∀ tasks, workflow.tasks.normalize = .ok tasks → ∀ task ∈ tasks, task.agentId ≠ some i) →
      workflow.Alike (.ofAgents agents) (.without agents i) ∧
      ∀ agent, agent.id = i →
        workflow.Alike (.ofAgents agents) (.ofAgents (agents ++ [agent]))) := by
  refine ⟨fun e herror => ?_, fun tasks htasks => ?_, fun hunreferenced => ⟨?_, ?_⟩⟩
  · exact ⟨compile_of_normalize_error herror, compile_of_normalize_error herror⟩
  · rw [nodesOf_compile htasks, nodesOf_compile htasks, ← nodesFrom_without]
    exact ⟨rfl, compile_eq_emptyChain_iff htasks, exists_compile_of_ne_nil htasks⟩
  · refine alike_of_get? hunreferenced fun j hj => ?_
    rw [Roster.get?_without, if_neg hj]
  · rintro agent rfl
    refine alike_of_get? hunreferenced fun j hj => ?_
    rw [Roster.get?_ofAgents_concat, if_neg hj]

/-- A workflow that two agents take turns at. -/
def relay : Workflow :=
  .ofDraft 1 ⟨"Relay", none, .draft, .list
    [.object [("agent_id", .int 1), ("instruction", .string "Ask"), ("step", .int 1)],
      .object [("agent_id", .int 2), ("instruction", .string "Sum up"), ("step", .int 2)]]⟩
    ⟨⟨2024, 1, 1⟩, 0, 0, 0⟩

/-- The agents of the relay. -/
def relayAgents : List Agent :=
  [.ofDraft 1 ⟨"Ann", none, defaultModel, ""⟩ ⟨⟨2024, 1, 1⟩, 0, 0, 0⟩,
    .ofDraft 2 ⟨"Bob", none, defaultModel, ""⟩ ⟨⟨2024, 1, 1⟩, 0, 0, 0⟩]

/-- Without its first agent the relay has one step left, the second one; an agent whom it does not
refer to is of no consequence. -/
theorem compile_without_relay :
    relay.tasks.normalize = .ok [⟨1, some 1, "Ask"⟩, ⟨2, some 2, "Sum up"⟩] ∧
    (∃ chain, relay.compile (.without relayAgents 1) = .ok chain ∧
      chain.nodeIds = ["step_2_Bob"]) ∧
    relay.Alike (.ofAgents relayAgents) (.without relayAgents 3) := by
  have htasks : relay.tasks.normalize = .ok [⟨1, some 1, "Ask"⟩, ⟨2, some 2, "Sum up"⟩] := by
    have hentries : relay.tasks.normalize =
        .ok (Task.inOrder [⟨1, some 1, "Ask"⟩, ⟨2, some 2, "Sum up"⟩]) := by rfl
    rw [hentries, Task.inOrder_pair]
    rfl
  have hremaining : ((Chain.nodesOf (relay.compile (.ofAgents relayAgents))).filter
      fun node => node.agent.id ≠ 1).map Node.id = ["step_2_Bob"] := by
    rw [nodesOf_compile htasks]
    decide
  obtain ⟨_, hleft, _⟩ := compile_without relay relayAgents 1
  obtain ⟨_, _, hjoined⟩ := hleft _ htasks
  obtain ⟨chain, hok, _, hnodes⟩ := hjoined (by
    intro hnone
    rw [hnone] at hremaining
    cases hremaining)
  refine ⟨htasks, ⟨chain, hok, by rw [Chain.nodeIds, hnodes, hremaining]⟩, ?_⟩
  refine ((compile_without relay relayAgents 3).2.2 fun tasks hok task hmem => ?_).1
  obtain rfl : _ = tasks := Except.ok.inj (htasks.symm.trans hok)
  simp only [List.mem_cons, List.not_mem_nil, or_false] at hmem
  rcases hmem with rfl | rfl <;> decide

end Workflow

end AgentFlow
