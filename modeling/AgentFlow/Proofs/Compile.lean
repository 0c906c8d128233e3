import AgentFlow.Compile
import AgentFlow.Proofs.Chain.Assembly
import AgentFlow.Proofs.Chain.Ids
import AgentFlow.Proofs.Task.Entries

/-!
# What a compiled workflow is made of

The steps of a chain are the tasks whose agents there are, in the order of the tasks. A task that is
passed over keeps its position, so positions may be skipped but never repeat; since the id of a step
tells its position, steps never share an id and assembling them cannot fail for that reason.
-/

namespace AgentFlow

/-- A node is the step for the task at a position: the task names an agent of the roster, and the
step has the id of that position, that agent, and the instruction of that task. -/
def Node.IsStepFor (node : Node) (roster : Roster) (tasks : List Task) (position : Nat) : Prop :=
  ∃ task i agent, tasks[position]? = some task ∧ task.agentId = some i ∧
    roster.get? i = some agent ∧
    node = ⟨Node.idAt position agent.name, agent, task.instruction⟩

/-- Nodes are the steps for tasks: one for each position that has a step, by increasing position. -/
def StepsOf (roster : Roster) (tasks : List Task) (nodes : List Node) : Prop :=
  ∃ steps : List (Nat × Node), steps.map Prod.snd = nodes ∧
    steps.Pairwise (fun a b => a.1 < b.1) ∧
    ∀ position node, (position, node) ∈ steps ↔ node.IsStepFor roster tasks position

/-- A task has a step exactly if it names an agent of the roster. -/
theorem Task.node?_eq_some_iff {roster : Roster} {position : Nat} {task : Task} {node : Node} :
    task.node? roster position = some node ↔
      ∃ i agent, task.agentId = some i ∧ roster.get? i = some agent ∧
        node = ⟨Node.idAt position agent.name, agent, task.instruction⟩ := by
  unfold Task.node? Roster.resolve
  rw [Option.map_eq_some_iff]
  constructor
  · rintro ⟨agent, hagent, hnode⟩
    obtain ⟨i, hi, hget⟩ := Option.bind_eq_some_iff.mp hagent
    exact ⟨i, agent, hi, hget, hnode.symm⟩
  · rintro ⟨i, agent, hi, hget, hnode⟩
    exact ⟨agent, Option.bind_eq_some_iff.mpr ⟨i, hi, hget⟩, hnode.symm⟩

/-- The steps for tasks, found position by position. -/
theorem nodesFrom_eq_filterMap (roster : Roster) (start : Nat) (tasks : List Task) :
    nodesFrom roster start tasks =
      (tasks.zipIdx start).filterMap fun (task, position) => task.node? roster position := by
  induction tasks generalizing start with
  | nil => rfl
  | cons task rest ih =>
    rw [nodesFrom, ih, List.zipIdx_cons, List.filterMap_cons]
    cases hnode : task.node? roster start <;> simp [hnode]

/-- The positions of a list increase. -/
theorem zipIdx_pairwise_lt {α : Type} (l : List α) :
    l.zipIdx.Pairwise (fun a b => a.2 < b.2) := by
  have hpositions : (l.zipIdx.map Prod.snd).Pairwise (· < ·) := by
    rw [List.zipIdx_map_snd]
    exact List.pairwise_lt_range'
  exact List.pairwise_map.mp hpositions

/-- The nodes of a compiled list of tasks are the steps for its tasks. -/
theorem stepsOf_nodesFrom (roster : Roster) (tasks : List Task) :
    StepsOf roster tasks (nodesFrom roster 0 tasks) := by
  let step (entry : Task × Nat) : Option (Nat × Node) :=
    (entry.1.node? roster entry.2).map fun node => (entry.2, node)
  refine ⟨tasks.zipIdx.filterMap step, ?_, ?_, ?_⟩
  · rw [nodesFrom_eq_filterMap, List.map_filterMap]
    congr 1
    funext entry
    simp only [step, Option.map_map, Function.comp_def, Option.map_id']
  · apply (zipIdx_pairwise_lt tasks).filterMap
    intro a b hlt c hc d hd
    obtain ⟨_, _, rfl⟩ := Option.map_eq_some_iff.mp hc
    obtain ⟨_, _, rfl⟩ := Option.map_eq_some_iff.mp hd
    exact hlt
  · intro position node
    rw [List.mem_filterMap]
    constructor
    · rintro ⟨⟨task, _⟩, hentry, hstep⟩
      obtain ⟨_, hnode, heq⟩ := Option.map_eq_some_iff.mp hstep
      obtain ⟨rfl, rfl⟩ := Prod.mk.inj heq
      obtain ⟨i, agent, hi, hget, hmade⟩ := Task.node?_eq_some_iff.mp hnode
      exact ⟨task, i, agent, List.mem_zipIdx_iff_getElem?.mp hentry, hi, hget, hmade⟩
    · rintro ⟨task, i, agent, htask, hi, hget, hmade⟩
      refine ⟨(task, position), List.mem_zipIdx_iff_getElem?.mpr htask, ?_⟩
      exact Option.map_eq_some_iff.mpr
        ⟨node, Task.node?_eq_some_iff.mpr ⟨i, agent, hi, hget, hmade⟩, rfl⟩

/-- There are steps exactly if some position has one. -/
theorem StepsOf.eq_nil_iff {roster : Roster} {tasks : List Task} {nodes : List Node}
    (h : StepsOf roster tasks nodes) :
    nodes = [] ↔ ∀ (position : Nat) (node : Node), ¬ node.IsStepFor roster tasks position := by
  obtain ⟨steps, rfl, _, hmem⟩ := h
  rw [List.map_eq_nil_iff, List.eq_nil_iff_forall_not_mem]
  constructor
  · intro hnone position node hstep
    exact hnone _ ((hmem position node).mpr hstep)
  · rintro hnone ⟨position, node⟩ hin
    exact hnone position node ((hmem position node).mp hin)

/-- Each of the nodes is the step for the task at some position. -/
theorem StepsOf.exists_isStepFor {roster : Roster} {tasks : List Task} {nodes : List Node}
    {node : Node} (h : StepsOf roster tasks nodes) (hnode : node ∈ nodes) :
    ∃ position, node.IsStepFor roster tasks position := by
  obtain ⟨steps, rfl, _, hmem⟩ := h
  obtain ⟨⟨position, _⟩, hstep, rfl⟩ := List.mem_map.mp hnode
  exact ⟨position, (hmem position _).mp hstep⟩

/-- Steps for tasks have ids of their own: their positions differ, and an id tells the position. -/
theorem StepsOf.nodup_ids {roster : Roster} {tasks : List Task} {nodes : List Node}
    (h : StepsOf roster tasks nodes) : (nodes.map Node.id).Nodup := by
  obtain ⟨steps, rfl, hincrease, hmem⟩ := h
  rw [List.map_map, List.nodup_iff_pairwise_ne, List.pairwise_map]
  apply hincrease.imp_of_mem
  rintro ⟨p, a⟩ ⟨r, b⟩ ha hb hlt hids
  obtain ⟨_, _, _, _, _, _, rfl⟩ := (hmem p a).mp ha
  obtain ⟨_, _, _, _, _, _, rfl⟩ := (hmem r b).mp hb
  have hposition := (Node.idAt_eq_iff.mp hids).1
  omega

namespace Workflow

variable {workflow : Workflow} {roster : Roster} {tasks : List Task}

/-- A workflow whose tasks are not normalized fails for that reason, whatever the roster. -/
theorem compile_of_normalize_error {e : WorkflowError}
    (herror : workflow.tasks.normalize = .error e) : workflow.compile roster = .error e := by
  unfold compile
  rw [herror]
  rfl

/-- Compiling assembles the steps for the normalized tasks. -/
theorem compile_of_normalize (htasks : workflow.tasks.normalize = .ok tasks) :
    workflow.compile roster = Chain.assemble workflow.name (nodesFrom roster 0 tasks) := by
  unfold compile
  rw [htasks]
  rfl

/-- If tasks have a step, the chain is made of the steps for them. -/
theorem exists_compile_of_ne_nil (htasks : workflow.tasks.normalize = .ok tasks)
    (hnodes : nodesFrom roster 0 tasks ≠ []) :
    ∃ chain, workflow.compile roster = .ok chain ∧ chain.name = workflow.name ∧
      chain.nodes = nodesFrom roster 0 tasks := by
  rw [compile_of_normalize htasks]
  exact Chain.assemble_of_nodup hnodes (stepsOf_nodesFrom roster tasks).nodup_ids

/-- A chain that a workflow compiles to is made of the steps for its normalized tasks. -/
theorem nodes_of_compile {chain : Chain} (h : workflow.compile roster = .ok chain) :
    ∃ tasks, workflow.tasks.normalize = .ok tasks ∧ chain.nodes = nodesFrom roster 0 tasks := by
  cases htasks : workflow.tasks.normalize with
  | error e =>
    rw [compile_of_normalize_error htasks] at h
    cases h
  | ok tasks =>
    rw [compile_of_normalize htasks] at h
    exact ⟨tasks, rfl, (Chain.eq_of_assemble h).2⟩

/-- The chain of a workflow depends on its name and its normalized tasks alone. -/
theorem compile_congr {other : Workflow} (hname : workflow.name = other.name)
    (htasks : workflow.tasks.normalize = other.tasks.normalize) (roster : Roster) :
    workflow.compile roster = other.compile roster := by
  unfold compile
  rw [hname, htasks]

/-- What a workflow is run with apart, its runs depend on its chain alone. -/
theorem run_congr {σ : Type} {other : Workflow} {roster otherRoster : Roster}
    (hchain : workflow.compile roster = other.compile otherRoster) (worker : Worker σ)
    (initial : ExecutionState) (memory : σ) :
    workflow.run roster worker initial memory = other.run otherRoster worker initial memory := by
  unfold run
  rw [hchain]

/-- If some task has a step, there is a chain, and it is made of the steps for the tasks. -/
theorem compile_of_step {position : Nat} {node : Node}
    (htasks : workflow.tasks.normalize = .ok tasks) (hstep : node.IsStepFor roster tasks position) :
    ∃ chain, workflow.compile roster = .ok chain ∧ chain.name = workflow.name ∧
      StepsOf roster tasks chain.nodes := by
  have hsteps := stepsOf_nodesFrom roster tasks
  have hnodes : nodesFrom roster 0 tasks ≠ [] := by
    intro hnil
    exact hsteps.eq_nil_iff.mp hnil position node hstep
  obtain ⟨chain, hok, hname, heq⟩ := exists_compile_of_ne_nil htasks hnodes
  exact ⟨chain, hok, hname, heq ▸ hsteps⟩

/-- If no task has a step, the workflow is refused as empty. -/
theorem compile_of_no_step (htasks : workflow.tasks.normalize = .ok tasks)
    (hnone : ∀ (position : Nat) (node : Node), ¬ node.IsStepFor roster tasks position) :
    workflow.compile roster = .error (.emptyChain workflow.name) := by
  rw [compile_of_normalize htasks, (stepsOf_nodesFrom roster tasks).eq_nil_iff.mpr hnone]
  exact Chain.assemble_nil workflow.name

/-- A workflow that does not compile has tasks that are not normalized, or none with a step. -/
theorem compile_error_cases {e : WorkflowError} (hfailed : workflow.compile roster = .error e) :
    workflow.tasks.normalize = .error e ∨ e = .emptyChain workflow.name := by
  cases htasks : workflow.tasks.normalize with
  | error e' =>
    rw [compile_of_normalize_error htasks] at hfailed
    exact .inl (congrArg _ (Except.error.inj hfailed))
  | ok tasks =>
    by_cases hstep : ∃ (position : Nat) (node : Node), node.IsStepFor roster tasks position
    · obtain ⟨position, node, hstep⟩ := hstep
      obtain ⟨chain, hok, _⟩ := compile_of_step htasks hstep
      rw [hfailed] at hok
      cases hok
    · have hnone : ∀ (position : Nat) (node : Node), ¬ node.IsStepFor roster tasks position := by
        simpa only [not_exists] using hstep
      rw [compile_of_no_step htasks hnone] at hfailed
      exact .inr (Except.error.inj hfailed).symm

/-- No workflow is refused for two steps with the same id. -/
theorem compile_ne_duplicateNode (workflow : Workflow) (roster : Roster) (id : String) :
    workflow.compile roster ≠ .error (.duplicateNode id) := by
  intro hfailed
  rcases compile_error_cases hfailed with htasks | heq
  · rcases Submission.normalize_error_cases htasks with ⟨_, _, heq⟩ | ⟨_, _, heq⟩ <;> cases heq
  · cases heq

/-- A workflow that does not compile is the fault of whoever defined it. -/
theorem isClientError_of_compile {e : WorkflowError}
    (hfailed : workflow.compile roster = .error e) : e.isClientError = true := by
  rcases compile_error_cases hfailed with htasks | rfl
  · rcases Submission.normalize_error_cases htasks with ⟨_, _, rfl⟩ | ⟨_, _, rfl⟩ <;> rfl
  · rfl

/-- **Compiling.** A failure to normalize is the failure of the workflow. Otherwise the chain is
made of the steps for the normalized tasks, in their order and under the positions they have among
all tasks; the workflow is refused as empty exactly if no task has a step. The ids of the steps
differ from each other, so that no workflow is refused for two steps with the same id. -/
theorem compile_eq_steps (workflow : Workflow) (roster : Roster) :
    (∀ e, workflow.tasks.normalize = .error e → workflow.compile roster = .error e) ∧
    (∀ tasks, workflow.tasks.normalize = .ok tasks →
      (workflow.compile roster = .error (.emptyChain workflow.name) ↔
        ∀ (position : Nat) (node : Node), ¬ node.IsStepFor roster tasks position) ∧
      (∀ (position : Nat) (node : Node), node.IsStepFor roster tasks position →
        ∃ chain, workflow.compile roster = .ok chain ∧ chain.name = workflow.name ∧
          StepsOf roster tasks chain.nodes) ∧
      ∀ nodes, StepsOf roster tasks nodes → (nodes.map Node.id).Nodup) ∧
    ∀ id, workflow.compile roster ≠ .error (.duplicateNode id) := by
  refine ⟨fun e => compile_of_normalize_error, ?_, compile_ne_duplicateNode workflow roster⟩
  intro tasks htasks
  refine ⟨⟨?_, compile_of_no_step htasks⟩, fun _ _ => compile_of_step htasks,
    fun _ => StepsOf.nodup_ids⟩
  intro hfailed position node hstep
  obtain ⟨chain, hok, _⟩ := compile_of_step htasks hstep
  rw [hfailed] at hok
  cases hok

/-- A workflow of two steps by agents whose names look like ids, with a task in between that no
agent is there for. -/
def survey : Workflow :=
  .ofDraft 1 ⟨"Survey", none, .draft, .list
    [.object [("agent_id", .int 2), ("instruction", .string "Sum up"), ("step", .int 7)],
      .object [("agent_id", .int 9)],
      .object [("agentId", .string " 1 "), ("prompt", .string "Ask"), ("step", .string "-3")]]⟩
    ⟨⟨2024, 1, 1⟩, 0, 0, 0⟩

/-- The agents of the survey. -/
def surveyRoster : Roster :=
  .ofAgents
    [.ofDraft 1 ⟨"1_step 3", none, defaultModel, ""⟩ ⟨⟨2024, 1, 1⟩, 0, 0, 0⟩,
      .ofDraft 2 ⟨"_", none, defaultModel, ""⟩ ⟨⟨2024, 1, 1⟩, 0, 0, 0⟩]

/-- The survey compiles to steps with ids of their own; with an entry that is no object it fails for
that reason. -/
theorem compile_eq_steps_survey :
    survey.tasks.normalize =
      .ok [⟨-3, some 1, "Ask"⟩, ⟨0, some 9, ""⟩, ⟨7, some 2, "Sum up"⟩] ∧
    (∃ chain, survey.compile surveyRoster = .ok chain ∧ chain.name = "Survey" ∧
      StepsOf surveyRoster [⟨-3, some 1, "Ask"⟩, ⟨0, some 9, ""⟩, ⟨7, some 2, "Sum up"⟩]
        chain.nodes ∧ (chain.nodes.map Node.id).Nodup) ∧
    { survey with tasks := .list [.int 1] }.compile surveyRoster =
      .error (.invalidTask 0 (.notAnObject (.int 1))) := by
  have htasks : survey.tasks.normalize =
      .ok [⟨-3, some 1, "Ask"⟩, ⟨0, some 9, ""⟩, ⟨7, some 2, "Sum up"⟩] := by
    have hentries : survey.tasks.normalize =
        .ok (Task.inOrder [⟨7, some 2, "Sum up"⟩, ⟨0, some 9, ""⟩, ⟨-3, some 1, "Ask"⟩]) := by rfl
    rw [hentries]
    simp [Task.inOrder, List.mergeSort, List.MergeSort.Internal.splitInTwo]
  obtain ⟨_, hsteps, _⟩ := compile_eq_steps survey surveyRoster
  obtain ⟨_, hchain, hnodup⟩ := hsteps _ htasks
  obtain ⟨chain, hok, hname, hof⟩ := hchain 2 ⟨"step_3__", _, "Sum up"⟩
    ⟨_, 2, _, rfl, rfl, rfl, by congr 1⟩
  refine ⟨htasks, ⟨chain, hok, hname, hof, hnodup _ hof⟩, ?_⟩
  exact (compile_eq_steps { survey with tasks := .list [.int 1] } surveyRoster).1 _ rfl

end Workflow

end AgentFlow
