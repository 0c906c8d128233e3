import AgentFlow.Codec.Record
import AgentFlow.Time.Instant

/-!
# Workflows

A workflow is a named collection of tasks. The tasks are kept as they were submitted, as a list of
free values or as a text that encodes one, and are interpreted only when the workflow is compiled.
-/

namespace AgentFlow

open Time

/-- Where a workflow is in its life. -/
inductive Status where
  | draft
  | active
  | archived
deriving DecidableEq, Repr

namespace Status

/-- The written name of a status. -/
def name : Status → String
  | draft => "draft"
  | active => "active"
  | archived => "archived"

/-- Statuses by name. -/
def codec : Codec Status :=
  .enumeration [("draft", draft), ("active", active), ("archived", archived)] name

end Status

/-- A collection of tasks as it was submitted. -/
inductive Submission where
  | list (items : List Json)
  | encoded (text : String)

namespace Submission

/-- A submission is an array or a string; no other value is one. -/
def ofValue : Json → Except Json.Mismatch Submission
  | .array items => .ok (.list (items.map Json.canonical))
  | .string text => .ok (.encoded text)
  | _ => .error (.alternatives "RawTasks")

/-- The submission as a value, just as it was submitted. -/
def toValue : Submission → Json
  | list items => .array items
  | encoded text => .string text

/-- Submissions as they are exchanged. The value is read in full before its form is looked at. -/
def codec : Codec Submission where
  read depth cs := do
    let (v, rest) ← Json.readValue depth cs
    match ofValue v with
    | .ok s => return (s, rest)
    | .error m => .error (.whole rest m)
  ofJson _ := ofValue
  ofYaml depth node := do
    let v ← Codec.freeOfYaml depth node
    Yaml.Decode.ofOption (ofValue v).toOption
  write := toValue

end Submission

/-- A named collection of tasks for agents. -/
structure Workflow where
  id : Int
  name : String
  description : Option String
  status : Status
  tasks : Submission
  createdAt : Instant
  updatedAt : Instant

/-- What a new workflow is made from; its id and times are assigned. -/
structure WorkflowDraft where
  name : String
  description : Option String
  status : Status
  tasks : Submission

namespace Workflow

/-- The workflow made from a draft at an instant. -/
def ofDraft (id : Int) (draft : WorkflowDraft) (now : Instant) : Workflow where
  id := id
  name := draft.name
  description := draft.description
  status := draft.status
  tasks := draft.tasks
  createdAt := now
  updatedAt := now

/-- The fields of a workflow. Times that are not given are those of the reading. -/
def record (now : Instant) :=
  Record.mk "Workflow"
    (.cons (.required "id" .int64) <|
      .cons (.required "name" .string) <|
      .cons (.optionalWithDefault "description" .string) <|
      .cons (.withDefault "status" Status.codec .draft) <|
      .cons (.withDefault "tasks" Submission.codec (.list [])) <|
      .cons (.withDefault "created_at" Instant.codec now) <|
      .cons (.withDefault "updated_at" Instant.codec now) .nil)
    (fun (id, name, description, status, tasks, createdAt, updatedAt, ()) =>
      Workflow.mk id name description status tasks createdAt updatedAt)
    fun w => (w.id, w.name, w.description, w.status, w.tasks, w.createdAt, w.updatedAt, ())

/-- Workflows as they are stored and exchanged. -/
def codec (now : Instant) : Codec Workflow := (record now).codec

/-- A workflow as a value. -/
def toJson (w : Workflow) : Json := (codec w.createdAt).write w

end Workflow

namespace WorkflowDraft

/-- The fields of a draft. -/
def record :=
  Record.mk "WorkflowDraft"
    (.cons (.required "name" .string) <|
      .cons (.optionalWithDefault "description" .string) <|
      .cons (.withDefault "status" Status.codec .draft) <|
      .cons (.withDefault "tasks" Submission.codec (.list [])) .nil)
    (fun (name, description, status, tasks, ()) => WorkflowDraft.mk name description status tasks)
    fun d => (d.name, d.description, d.status, d.tasks, ())

/-- Drafts as clients submit them. -/
def codec : Codec WorkflowDraft := record.codec

end WorkflowDraft

end AgentFlow
