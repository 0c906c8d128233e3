import AgentFlow.Api.Action
import AgentFlow.Compile
import AgentFlow.Store

/-!
# Answers

What each action makes of the store, and what the client is answered. A run reads the workflow and
then the agents; what it is answered depends on these two readings alone.
-/

namespace AgentFlow.Api

open Http Time

variable {σ : Type}

/-- The response where there is no such agent. -/
def agentNotFound : Response := .failure 404 "Agent not found"

/-- The response where there is no such workflow. -/
def workflowNotFound : Response := .failure 404 "Workflow not found"

/-- The response to a deletion. -/
def deleted : Response := .json 200 (.object [("ok", .bool true)])

/-- What a run is answered with when it has succeeded. -/
def outcomeResponse (outcome : RunOutcome) : Response :=
  .json 200 <| .object
    [("status", .string "success"), ("results", (Codec.stringMap .string).write outcome.results),
      ("messages", (Codec.list Message.codec).write outcome.messages)]

/-- Runs a workflow that was read, with the agents that were read. -/
def runResponse (worker : Worker σ) (workflow? : Option Workflow) (roster : Roster) (memory : σ) :
    Response × σ :=
  match workflow? with
  | none => (workflowNotFound, memory)
  | some workflow =>
    match workflow.run roster worker .initial memory with
    | (.ok outcome, memory) => (outcomeResponse outcome, memory)
    | (.error e, memory) => (e.response, memory)

/-- Runs a workflow that was read, with the agents that were read, and tells what happens. -/
def streamResponse (worker : Worker σ) (workflow? : Option Workflow) (roster : Roster)
    (memory : σ) : Response × σ :=
  match workflow? with
  | none => (workflowNotFound, memory)
  | some workflow =>
    match workflow.compile roster with
    | .error e => (e.response, memory)
    | .ok chain =>
      let (events, _, memory) := chain.watch worker true .initial memory
      (.events (events.map RunEvent.toJson), memory)

namespace Action

/-- Performs an action at an instant: the response, the store and the worker's memory after it. -/
def perform (worker : Worker σ) (now : Instant) (store : Store) (memory : σ) :
    Action → Response × Store × σ
  | welcome =>
    (.json 200 (.object [("message", .string "AgentOps AI Backend is running")]), store, memory)
  | health => (.json 200 (.object [("status", .string "ok")]), store, memory)
  | chat conversation => (reply now conversation, store, memory)
  | listAgents => (.json 200 (.array (store.listAgents.map Agent.toJson)), store, memory)
  | createAgent draft =>
    let (agent, store) := store.createAgent draft now
    (.json 200 agent.toJson, store, memory)
  | showAgent id =>
    ((store.agent? id).elim agentNotFound (.json 200 ·.toJson), store, memory)
  | updateAgent id patch =>
    let (agent?, store) := store.updateAgent id patch now
    (agent?.elim agentNotFound (.json 200 ·.toJson), store, memory)
  | deleteAgent id =>
    let (found, store) := store.deleteAgent id
    (if found then deleted else agentNotFound, store, memory)
  | listWorkflows =>
    (.json 200 (.array (store.listWorkflows.map Workflow.toJson)), store, memory)
  | createWorkflow draft =>
    let (workflow, store) := store.createWorkflow draft now
    (.json 200 workflow.toJson, store, memory)
  | showWorkflow id =>
    ((store.workflow? id).elim workflowNotFound (.json 200 ·.toJson), store, memory)
  | deleteWorkflow id =>
    let (found, store) := store.deleteWorkflow id
    (if found then deleted else workflowNotFound, store, memory)
  | runWorkflow id =>
    let (response, memory) := runResponse worker (store.workflow? id) store.roster memory
    (response, store, memory)
  | streamWorkflow id =>
    let (response, memory) := streamResponse worker (store.workflow? id) store.roster memory
    (response, store, memory)

end Action

/-- Answers a request at an instant: the response, the store and the worker's memory after it. -/
def answer (worker : Worker σ) (now : Instant) (r : Request) (store : Store) (memory : σ) :
    Response × Store × σ :=
  let (response, store, memory) :=
    match Action.ofRequest r with
    | .error rejection => (rejection.response, store, memory)
    | .ok action => action.perform worker now store memory
  (if r.method = .head then response.withoutBody else response, store, memory)

/-- Answers requests in order. -/
def answerAll (worker : Worker σ) (store : Store) (memory : σ) :
    List (Instant × Request) → List Response × Store × σ
  | [] => ([], store, memory)
  | (now, r) :: rest =>
    let (response, store, memory) := answer worker now r store memory
    let (responses, store, memory) := answerAll worker store memory rest
    (response :: responses, store, memory)

end AgentFlow.Api
