import AgentFlow.Number.Integer
import AgentFlow.Text.Blank
import AgentFlow.Workflow
import AgentFlow.WorkflowError

/-!
# Tasks

A task in its canonical form: its place in the order of steps, the agent it is delegated to, and
what the agent is told. Clients write tasks in more than one way: a step may be a number or a text,
the agent and the instruction have two names each, and what is null, false, zero or empty counts as
not given. Here a submitted collection becomes a list of tasks in the order of their steps; tasks of
one step stay in the order they were submitted in.
-/

namespace AgentFlow

open Number

/-- A task whose spellings and defaults are resolved. -/
structure Task where
  /-- The place in the order of steps; tasks may share one. -/
  step : Int
  /-- The agent, unless the task names no usable one. -/
  agentId : Option Int
  instruction : String
deriving DecidableEq, Repr

namespace Task

/-- The fields of a task. -/
def record :=
  Record.mk "TaskDescriptor"
    (.cons (.required "step" .int64) <|
      .cons (.optional "agent_id" .int64) <|
      .cons (.required "instruction" .string) .nil)
    (fun (step, agentId, instruction, ()) => Task.mk step agentId instruction)
    fun t => (t.step, t.agentId, t.instruction, ())

/-- Tasks as they are exchanged. -/
def codec : Codec Task := record.codec

/-- Null, false, zero and what is empty count as not given. -/
def isBlank : Json → Bool
  | .null => true
  | .bool b => !b
  | .int n => n == 0
  | .float x => x.isZero
  | .string s => s.isEmpty
  | .array items => items.isEmpty
  | .object members => members.isEmpty

/-- The value of a member, unless it is missing or null. -/
def given? (item : Json) (name : String) : Option Json :=
  match item.member? name with
  | some .null => none
  | v? => v?

/-- A number beyond the range stands for the nearest integer in it. -/
def clampedInt? (x : Double) : Option Int := x.toInt?.map IntRange.int64.clamp

/-- An integer that is written in decimal, blanks around it aside. -/
def writtenInt? (s : String) : Option Int := readInt? .int64 (Text.trim s.toList)

/-- An integer that no signed word of 64 bits holds is taken for the nearest double. -/
def intOrDouble (n : Int) : Int ⊕ Double :=
  if IntRange.int64.contains n then .inl n else .inr (.ofInt n)

/-- The step of an entry. One that is not given is zero. -/
def stepOf : Option Json → Except TaskFault Int
  | none => .ok 0
  | some (.int n) =>
    match intOrDouble n with
    | .inl n => .ok n
    | .inr x => (clampedInt? x).elim (.error (.fractionalStep x)) .ok
  | some (.float x) => (clampedInt? x).elim (.error (.fractionalStep x)) .ok
  | some (.string s) => (writtenInt? s).elim (.error (.unreadableStep s)) .ok
  | some _ => .error .unknownStep

/-- The agent that a value refers to: a whole number or a text that writes one. Any other value
refers to none. -/
def agentRef? : Json → Option Int
  | .int n =>
    match intOrDouble n with
    | .inl n => some n
    | .inr x => clampedInt? x
  | .float x => clampedInt? x
  | .string s => writtenInt? s
  | _ => none

/-- The agent of an entry. The second name counts if the first is blank. -/
def agentOf (item : Json) : Option Int :=
  (((given? item "agent_id").filter (!isBlank ·)).or (given? item "agentId")).bind agentRef?

/-- An instruction is a text; any other value is written as one. -/
def renderText : Json → String
  | .string s => s
  | v => v.compactText

/-- The instruction of an entry. The second name counts if the first is blank. -/
def instructionOf (item : Json) : String :=
  let v? := ((given? item "instruction").filter (!isBlank ·)).or
    ((given? item "prompt").filter (!isBlank ·))
  (v?.map renderText).getD ""

/-- The task that an entry describes. -/
def ofEntry (item : Json) : Except TaskFault Task :=
  match item with
  | .object _ => do
    let step ← stepOf (given? item "step")
    return ⟨step, agentOf item, instructionOf item⟩
  | item => .error (.notAnObject item)

/-- The tasks that entries describe, of which the first has the given position. The first entry at
fault counts. -/
def ofEntries (index : Nat) : List Json → Except WorkflowError (List Task)
  | [] => .ok []
  | item :: rest =>
    match ofEntry item with
    | .error fault => .error (.invalidTask index fault)
    | .ok task => do return task :: (← ofEntries (index + 1) rest)

/-- Tasks by step; those of one step keep their order. -/
def inOrder (tasks : List Task) : List Task := tasks.mergeSort fun a b => a.step ≤ b.step

end Task

namespace Submission

/-- The entries of a submission: an encoded one is decoded first. -/
def entries : Submission → Except WorkflowError (List Json)
  | list items => .ok items
  | encoded text => (Codec.list .free).parse text |>.mapError (.malformedTasks text)

/-- The tasks of a submission in the order of their steps. -/
def normalize (submission : Submission) : Except WorkflowError (List Task) := do
  let items ← submission.entries
  return Task.inOrder (← Task.ofEntries 0 items)

end Submission

end AgentFlow
