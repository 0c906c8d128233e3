import AgentFlow.Codec.Record
import AgentFlow.Time.Instant

/-!
# Agents

An agent is a named configuration of a chat model with a system prompt. Drafts are what clients
submit to have one made, patches what they submit to change one. A roster is a snapshot of the
agents there are, by id: a workflow is compiled against one, so that later changes of the agents do
not reach a chain that was built.
-/

namespace AgentFlow

open Time

/-- The model of agents that name none. -/
def defaultModel : String := "gpt-4o"

/-- A named model configuration with a system prompt. -/
structure Agent where
  id : Int
  name : String
  description : Option String
  model : String
  systemPrompt : String
  createdAt : Instant
  updatedAt : Instant
deriving DecidableEq, Repr

/-- What a new agent is made from; its id and times are assigned. -/
structure AgentDraft where
  name : String
  description : Option String
  model : String
  systemPrompt : String
deriving DecidableEq, Repr

/-- Changes to an agent: only the fields that are given change. -/
structure AgentPatch where
  name : Option String
  description : Option String
  model : Option String
  systemPrompt : Option String
deriving DecidableEq, Repr

namespace Agent

/-- The agent made from a draft at an instant. -/
def ofDraft (id : Int) (draft : AgentDraft) (now : Instant) : Agent where
  id := id
  name := draft.name
  description := draft.description
  model := draft.model
  systemPrompt := draft.systemPrompt
  createdAt := now
  updatedAt := now

/-- The agent after a patch at an instant. A description can be replaced but not taken away. -/
def apply (agent : Agent) (patch : AgentPatch) (now : Instant) : Agent where
  id := agent.id
  name := patch.name.getD agent.name
  description := patch.description.or agent.description
  model := patch.model.getD agent.model
  systemPrompt := patch.systemPrompt.getD agent.systemPrompt
  createdAt := agent.createdAt
  updatedAt := now

/-- A patch leaves the id. -/
@[simp]
theorem id_apply (agent : Agent) (patch : AgentPatch) (now : Instant) :
    (agent.apply patch now).id = agent.id := rfl

/-- The fields of an agent. Times that are not given are those of the reading. -/
def record (now : Instant) :=
  Record.mk "Agent"
    (.cons (.required "id" .int64) <|
      .cons (.required "name" .string) <|
      .cons (.optionalWithDefault "description" .string) <|
      .cons (.withDefault "model" .string defaultModel) <|
      .cons (.withDefault "system_prompt" .string "") <|
      .cons (.withDefault "created_at" Instant.codec now) <|
      .cons (.withDefault "updated_at" Instant.codec now) .nil)
    (fun (id, name, description, model, systemPrompt, createdAt, updatedAt, ()) =>
      Agent.mk id name description model systemPrompt createdAt updatedAt)
    fun a =>
      (a.id, a.name, a.description, a.model, a.systemPrompt, a.createdAt, a.updatedAt, ())

/-- Agents as they are stored and exchanged. -/
def codec (now : Instant) : Codec Agent := (record now).codec

/-- An agent as a value. -/
def toJson (a : Agent) : Json := (codec a.createdAt).write a

end Agent

namespace AgentDraft

/-- The fields of a draft. -/
def record :=
  Record.mk "AgentDraft"
    (.cons (.required "name" .string) <|
      .cons (.optionalWithDefault "description" .string) <|
      .cons (.withDefault "model" .string defaultModel) <|
      .cons (.required "system_prompt" .string) .nil)
    (fun (name, description, model, systemPrompt, ()) =>
      AgentDraft.mk name description model systemPrompt)
    fun d => (d.name, d.description, d.model, d.systemPrompt, ())

/-- Drafts as clients submit them. -/
def codec : Codec AgentDraft := record.codec

end AgentDraft

namespace AgentPatch

/-- The patch that changes nothing but the time of the last change. -/
def empty : AgentPatch := ⟨none, none, none, none⟩

/-- The fields of a patch. -/
def record :=
  Record.mk "AgentPatch"
    (.cons (.optional "name" .string) <|
      .cons (.optional "description" .string) <|
      .cons (.optional "model" .string) <|
      .cons (.optional "system_prompt" .string) .nil)
    (fun (name, description, model, systemPrompt, ()) =>
      AgentPatch.mk name description model systemPrompt)
    fun p => (p.name, p.description, p.model, p.systemPrompt, ())

/-- Patches as clients submit them. -/
def codec : Codec AgentPatch := record.codec

end AgentPatch

/-- The agents at some moment, by id. -/
abbrev Roster := SortedMap Int Agent

/-- The roster of a list of agents: of agents with one id the last one counts. -/
def Roster.ofAgents (agents : List Agent) : Roster := .ofList (agents.map fun a => (a.id, a))

end AgentFlow
