import AgentFlow.Http.Message
import AgentFlow.Text.Parts

/-!
# Resources

What the interface offers under which path, and by which methods. Collections may be written with a
slash at their end; nothing else may.
-/

namespace AgentFlow.Api

open Http

/-- What a path leads to. Ids are as they stand in the path. -/
inductive Resource where
  | welcome
  | health
  | chat
  | agents
  | agent (id : String)
  | workflows
  | workflow (id : String)
  /-- Runs of a workflow. -/
  | runs (id : String)
  /-- Runs of a workflow that are told as they happen. -/
  | streams (id : String)
deriving DecidableEq, Repr

namespace Resource

/-- What the segments of a path lead to, of which the first one is before the first slash. -/
def ofSegments? : List String → Option Resource
  | ["", ""] => some welcome
  | ["", "health"] => some health
  | ["", "api", "v1", "chat"] => some chat
  | ["", "api", "v1", "agents"] => some agents
  | ["", "api", "v1", "agents", id] => some (if id = "" then agents else agent id)
  | ["", "api", "v1", "workflows"] => some workflows
  | ["", "api", "v1", "workflows", id] => some (if id = "" then workflows else workflow id)
  | ["", "api", "v1", "workflows", id, "run"] => if id = "" then none else some (runs id)
  | ["", "api", "v1", "workflows", id, "run", "stream"] =>
    if id = "" then none else some (streams id)
  | _ => none

/-- What a path leads to. -/
def ofPath? (path : String) : Option Resource := ofSegments? (Text.partsOf '/' path)

/-- The methods that a resource has, in the order in which clients are told of them. -/
def methods : Resource → List Method
  | welcome | health => [.get, .head]
  | chat => [.post]
  | agents | workflows => [.get, .head, .post]
  | agent _ => [.get, .head, .put, .delete]
  | workflow _ => [.get, .head, .delete]
  | runs _ | streams _ => [.post]

end Resource

end AgentFlow.Api
