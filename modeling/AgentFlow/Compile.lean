import AgentFlow.Chain.Run
import AgentFlow.Task

/-!
# Compiling workflows

A workflow becomes a chain: its tasks are normalized, and each task whose agent there is becomes a
step. Other tasks are passed over, but count for the positions of those after them.
-/

namespace AgentFlow

/-- The agent that a task is delegated to, if it names one that there is. -/
def Roster.resolve (roster : Roster) (task : Task) : Option Agent := task.agentId.bind roster.get?

/-- The step for the task at a position, if its agent is known. -/
def Task.node? (roster : Roster) (position : Nat) (task : Task) : Option Node :=
  (roster.resolve task).map fun agent =>
    ⟨Node.idAt position agent.name, agent, task.instruction⟩

/-- The steps for tasks, of which the first has the given position. -/
def nodesFrom (roster : Roster) (position : Nat) : List Task → List Node
  | [] => []
  | task :: rest =>
    (task.node? roster position).toList ++ nodesFrom roster (position + 1) rest

namespace Workflow

/-- The chain of a workflow. -/
def compile (workflow : Workflow) (roster : Roster) : Except WorkflowError Chain := do
  let tasks ← workflow.tasks.normalize
  Chain.assemble workflow.name (nodesFrom roster 0 tasks)

/-- Compiles a workflow and runs it. The worker is not asked if it does not compile. -/
def run {σ : Type} (workflow : Workflow) (roster : Roster) (worker : Worker σ)
    (initial : ExecutionState) (memory : σ) : Except WorkflowError RunOutcome × σ :=
  match workflow.compile roster with
  | .error e => (.error e, memory)
  | .ok chain =>
    let (result, memory) := chain.run worker initial memory
    (result.map .ofState, memory)

end Workflow

end AgentFlow
