import AgentFlow.ExecutionState

/-!
# Run events

What is told of a run while it goes on. In texts an event is an object that names its kind beside
its own members, which may come in any order; they are put aside until the kind is known.
-/

namespace AgentFlow

open Json

/-- Progress of a run. -/
inductive RunEvent where
  /-- A step begins. -/
  | stepStarted (node agent : String)
  /-- A step has ended and contributes an update. -/
  | stepCompleted (node : String) (update : StateUpdate)
  /-- The last step has ended. -/
  | finished (state : ExecutionState)
  /-- The run was given up, at a step if one failed. -/
  | failed (node : Option String) (error : String)
deriving DecidableEq

namespace RunEvent

/-- The member that names the kind of an event. -/
def tag : String := "event"

/-- The fields of a step's begin. -/
def startedFields :=
  Fields.cons (.required "node_id" .string) <| .cons (.required "agent" .string) .nil

/-- The fields of a step's end. -/
def completedFields :=
  Fields.cons (.required "node_id" .string) <| .cons (.required "update" StateUpdate.codec) .nil

/-- The fields of the end of a run. -/
def finishedFields := Fields.cons (.required "state" ExecutionState.codec) .nil

/-- The fields of a run's failure. -/
def failedFields :=
  Fields.cons (.optional "node_id" .string) <| .cons (.required "error" .string) .nil

/-- An event as a value. -/
def toJson (e : RunEvent) : Json :=
  let event (kind : String) (members : List (String × Json)) :=
    Json.object ((tag, .string kind) :: members)
  match e with
  | stepStarted node agent => event "step_started" (startedFields.write (node, agent, ()))
  | stepCompleted node update => event "step_completed" (completedFields.write (node, update, ()))
  | finished state => event "finished" (finishedFields.write (state, ()))
  | failed node error => event "failed" (failedFields.write (node, error, ()))

/-- How the events of one kind are made of what was put aside. -/
structure Kind where
  ofMembers : Origin → List (String × Json) → Except Mismatch RunEvent
  ofElements : Origin → List Json → Except Mismatch RunEvent

/-- The kind of the events that are made of the given fields. -/
def Kind.ofFields {σ τ : Type} (name : String) (fields : Fields σ τ) (make : τ → RunEvent) :
    Kind where
  ofMembers origin members := (fields.ofMembers origin members).map make
  ofElements origin items :=
    (fields.ofElements s!"struct variant RunEvent::{name} with {fields.countText}" origin
      items).map make

/-- The kinds by name. -/
def kinds : List (String × Kind) :=
  [("step_started",
      .ofFields "StepStarted" startedFields fun (node, agent, ()) => stepStarted node agent),
    ("step_completed",
      .ofFields "StepCompleted" completedFields fun (node, update, ()) =>
        stepCompleted node update),
    ("finished", .ofFields "Finished" finishedFields fun (state, ()) => finished state),
    ("failed", .ofFields "Failed" failedFields fun (node, error, ()) => failed node error)]

/-- The kind that a value names. -/
def kindOf : Json → Except Mismatch Kind
  | .string name => Codec.ofName kinds name
  | v => .error (.kind v.found "variant identifier")

/-- What is expected where an event is wanted. -/
def expected : String := "internally tagged enum RunEvent"

/-- Reads the members of an object: the kind, and those put aside, the latest first. -/
def readMembers (depth : Nat) : Nat → Bool → Option Kind → List (String × Json) → List Char →
    Read ((Kind × List (String × Json)) × List Char)
  | 0, _, _, _, _ => .error (.here [] .endOfObject)
  | turns + 1, first, kind?, aside, cs => do
    let (more, cs) ← nextKey first cs
    if more then
      let (name, cs) ← readString cs
      if name = tag then
        if kind?.isSome then .error (.whole cs (.duplicateField tag))
        else do
          let ((), cs) ← readColon cs
          let (kind, cs) ← Codec.readLeaf kindOf cs
          readMembers depth turns false (some kind) aside cs
      else do
        let ((), cs) ← readColon cs
        let (v, cs) ← readValue depth cs
        readMembers depth turns false kind? ((name, v) :: aside) cs
    else match kind? with
      | some kind => return ((kind, aside), cs)
      | none => .error (.whole cs (.missingField tag))

/-- Reads the elements of an array: the kind comes first. -/
def readElements (depth : Nat) (cs : List Char) : Read ((Kind × List Json) × List Char) := do
  let (more, cs) ← nextElement true cs
  if more then
    let (kind, cs) ← Codec.readLeaf kindOf cs
    let (items, cs) ← Json.readElements (readValue depth) (cs.length + 1) 1 cs
    return ((kind, items), cs)
  else .error (.whole cs (.missingField tag))

/-- Makes the event of what was put aside. A mismatch in it belongs to the event as a whole. -/
def settle (rest : List Char) : Except Mismatch RunEvent → Read (RunEvent × List Char)
  | .ok e => .ok (e, rest)
  | .error m => .error (.whole rest m)

/-- Takes the kind out of the members of a value. -/
def splitMembers (kind? : Option Kind) :
    List (String × Json) → Except Mismatch (Kind × List (String × Json))
  | [] => match kind? with
    | some kind => .ok (kind, [])
    | none => .error (.missingField tag)
  | (name, v) :: rest =>
    if name = tag then
      if kind?.isSome then .error (.duplicateField tag)
      else do splitMembers (some (← kindOf v)) rest
    else do
      let (kind, aside) ← splitMembers kind? rest
      return (kind, (name, v) :: aside)

/-- Events as they are exchanged. -/
def codec : Codec RunEvent where
  read depth cs :=
    match depth, skipSpace cs with
    | _, [] => .error (.here [] .endOfValue)
    | 0, '{' :: rest => .error (.next ('{' :: rest) .tooDeep)
    | 0, '[' :: rest => .error (.next ('[' :: rest) .tooDeep)
    | depth + 1, '{' :: rest => do
      let ((kind, aside), rest) ←
        finishObject (readMembers depth (rest.length + 1) true none [] rest)
      settle rest (kind.ofMembers .buffered aside.reverse)
    | depth + 1, '[' :: rest => do
      let ((kind, items), rest) ← finishArray (readElements depth rest)
      settle rest (kind.ofElements .buffered items)
    | _, rest => Codec.readLeaf (fun v => .error (.kind v.found expected)) rest
  ofJson origin v :=
    match v with
    | .object members => do
      let (kind, aside) ← splitMembers none members
      kind.ofMembers origin aside
    | .array (first :: items) => do (← kindOf first).ofElements origin items
    | .array [] => .error (.missingField tag)
    | v => .error (.kind v.found expected)
  ofYaml _ _ := Yaml.Decode.fail
  write := toJson

end RunEvent

end AgentFlow
