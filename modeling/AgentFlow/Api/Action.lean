import AgentFlow.Api.Conversation
import AgentFlow.Api.Resource
import AgentFlow.Http.MediaType
import AgentFlow.Http.PathId
import AgentFlow.Workflow

/-!
# What requests ask for

A request is understood as an action or rejected before anything is done. The path is looked at
first, then the method, the id in the path, the announced type of the body, its size, and the body.
-/

namespace AgentFlow.Api

open Http

/-- What a client asks for. -/
inductive Action where
  | welcome
  | health
  | chat (conversation : Conversation)
  | listAgents
  | createAgent (draft : AgentDraft)
  | showAgent (id : Int)
  | updateAgent (id : Int) (patch : AgentPatch)
  | deleteAgent (id : Int)
  | listWorkflows
  | createWorkflow (draft : WorkflowDraft)
  | showWorkflow (id : Int)
  | deleteWorkflow (id : Int)
  | runWorkflow (id : Int)
  | streamWorkflow (id : Int)

/-- Why a request is not understood. -/
inductive Rejection where
  /-- The path leads nowhere. -/
  | unknownPath
  /-- The resource has other methods. -/
  | unknownMethod (allowed : List Method)
  /-- The segment for the id holds none. -/
  | badId (fault : PathFault)
  /-- The body is not announced as JSON. -/
  | notJson
  /-- The body is longer than what is taken. -/
  | tooLong
  /-- The bytes of the body are no text. -/
  | notText
  /-- The body is not what is asked for. -/
  | badBody (body : String) (fault : Json.Fault)

/-- The response to a request that is not understood. A body that is JSON but not of the type asked
for is told from one that is no JSON. -/
def Rejection.response : Rejection → Response
  | unknownPath => .empty 404 []
  | unknownMethod allowed => .empty 405 [("allow", ",".intercalate (allowed.map Method.name))]
  | badId fault => .text 400 fault.message
  | notJson => .text 415 "Expected request with `Content-Type: application/json`"
  | tooLong => .text 413 "Failed to buffer the request body: length limit exceeded"
  | notText => .text 400 "Failed to parse the request body as JSON: invalid unicode code point"
  | badBody body fault =>
    let message := fault.messageWithPath body.toList
    if fault.cause.isMismatch then
      .text 422 s!"Failed to deserialize the JSON body into the target type: {message}"
    else .text 400 s!"Failed to parse the request body as JSON: {message}"

/-- The id in a segment of the path. -/
def requestedId (segment : String) : Except Rejection Int := (readId segment).mapError .badId

/-- How many bytes a body may have. -/
def maxBodySize : Nat := 2097152

/-- The body of a request that is announced as JSON. -/
def requestedBody {α : Type} (codec : Codec α) (r : Request) : Except Rejection α :=
  if !(r.field? "content-type").any announcesJson then .error .notJson
  else if maxBodySize < r.body.size then .error .tooLong
  else
    match String.fromUTF8? r.body with
    | none => .error .notText
    | some text => (codec.parse text).mapError (.badBody text)

/-- What a request asks of a resource. -/
def Resource.action (resource : Resource) (r : Request) : Except Rejection Action :=
  match resource, r.method.answered with
  | .welcome, .get => .ok .welcome
  | .health, .get => .ok .health
  | .chat, .post => .chat <$> requestedBody Conversation.codec r
  | .agents, .get => .ok .listAgents
  | .agents, .post => .createAgent <$> requestedBody AgentDraft.codec r
  | .agent id, .get => .showAgent <$> requestedId id
  | .agent id, .put => do
    let id ← requestedId id
    let patch ← requestedBody AgentPatch.codec r
    return .updateAgent id patch
  | .agent id, .delete => .deleteAgent <$> requestedId id
  | .workflows, .get => .ok .listWorkflows
  | .workflows, .post => .createWorkflow <$> requestedBody WorkflowDraft.codec r
  | .workflow id, .get => .showWorkflow <$> requestedId id
  | .workflow id, .delete => .deleteWorkflow <$> requestedId id
  | .runs id, .post => .runWorkflow <$> requestedId id
  | .streams id, .post => .streamWorkflow <$> requestedId id
  | resource, _ => .error (.unknownMethod resource.methods)

/-- What a request asks for. -/
def Action.ofRequest (r : Request) : Except Rejection Action :=
  match Resource.ofPath? r.path with
  | none => .error .unknownPath
  | some resource => resource.action r

end AgentFlow.Api
