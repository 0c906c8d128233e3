import AgentFlow.Json.Fault

/-!
# Failures of workflows

Why a workflow does not compile, or why its run was given up, and the wording of this. A workflow
that does not compile is the fault of whoever defined it; a run that fails is not: clients answer
for the definition of a workflow, the program for its runs.
-/

namespace AgentFlow

open Json Number

/-- Why an entry of a task list is no task. -/
inductive TaskFault where
  /-- The entry is not an object. -/
  | notAnObject (item : Json)
  /-- The step is neither a number nor a text. -/
  | unknownStep
  /-- The step is a number that is not whole. -/
  | fractionalStep (x : Double)
  /-- The step is a text that writes no integer. -/
  | unreadableStep (text : String)

/-- The wording of what is wrong with an entry. -/
def TaskFault.message : TaskFault → String
  | notAnObject item => s!"expected an object, found {item.compactText}"
  | unknownStep => (Mismatch.alternatives "Scalar").message
  | fractionalStep x => s!"step Float({NumberLayout.message.text x}) is not an integer"
  | unreadableStep text => s!"step Text({Text.quoted text}) is not an integer"

/-- Why a workflow does not compile or run. -/
inductive WorkflowError where
  /-- The text that encodes the tasks is no list of values. -/
  | malformedTasks (text : String) (fault : Json.Fault)
  /-- The entry at a position of the submitted list is no task. -/
  | invalidTask (index : Nat) (fault : TaskFault)
  /-- No task names an agent that there is. -/
  | emptyChain (name : String)
  /-- Two steps have the same id. -/
  | duplicateNode (id : String)
  /-- A step failed, for the reason that its worker gave. -/
  | stepFailed (node reason : String)

namespace WorkflowError

/-- The wording of a failure. -/
def message : WorkflowError → String
  | malformedTasks text fault => s!"Malformed task list: {fault.message text.toList}"
  | invalidTask index fault => s!"Invalid task at position {index}: {fault.message}"
  | emptyChain name => s!"Workflow '{name}' has no resolvable tasks"
  | duplicateNode id => s!"Duplicate node id: {id}"
  | stepFailed node reason => s!"Step '{node}' failed: {reason}"

/-- The definition of the workflow is at fault, and not its run. -/
def isClientError : WorkflowError → Bool
  | stepFailed _ _ => false
  | _ => true

/-- The status that a client is answered with. -/
def status (e : WorkflowError) : Nat := if e.isClientError then 400 else 500

/-- What a client is told. -/
def report (e : WorkflowError) : String :=
  if e.isClientError then s!"Failed to build graph: {e.message}"
  else s!"Workflow execution failed: {e.message}"

end WorkflowError

end AgentFlow
