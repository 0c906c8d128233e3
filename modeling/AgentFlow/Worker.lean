import AgentFlow.Agent
import AgentFlow.Chat.Model
import AgentFlow.ExecutionState

/-!
# Step workers

What a step does with its agent and instruction is left to a worker. A worker is a function of the
assignment and of its own memory: it may be stateful, and it may fail.
-/

namespace AgentFlow

/-- What a worker is given for one step. -/
structure Assignment where
  agent : Agent
  instruction : String
  /-- The state before the step. -/
  state : ExecutionState

/-- A worker with a memory of type `σ`. It gives the output of a step or the reason why there is
none. -/
structure Worker (σ : Type) where
  name : String
  perform : Assignment → σ → Except String String × σ

namespace Worker

variable {σ : Type}

/-- A worker whose outputs depend on the assignment alone. -/
def stateless (name : String) (output : Assignment → Except String String) : Worker σ :=
  ⟨name, fun a memory => (output a, memory)⟩

/-- Tells what would be done, and by whom. -/
def placeholder : Worker σ :=
  stateless "placeholder" fun a => .ok s!"Processed '{a.instruction}' by {a.agent.name}"

/-- Repeats the latest message. -/
def echo : Worker σ :=
  stateless "echo" fun a =>
    match a.state.lastMessage? with
    | some message => .ok s!"Echo: {message.content}"
    | none => .error "No message to reply to"

/-- A message as a turn of a conversation: what an agent said carries its name, and whoever is
neither assistant nor system is a user. -/
def turnOf (m : Message) : Chat.Turn :=
  if m.role = "assistant" then
    ⟨.assistant, match m.name with
      | some name => s!"[{name}] {m.content}"
      | none => m.content⟩
  else if m.role = "system" then ⟨.system, m.content⟩
  else ⟨.user, m.content⟩

/-- The conversation for a step: the agent's system prompt, if it has one, the messages so far, and
the instruction. -/
def conversation (a : Assignment) : List Chat.Turn :=
  (if a.agent.systemPrompt.isEmpty then [] else [⟨.system, a.agent.systemPrompt⟩]) ++
    a.state.messages.map turnOf ++ [⟨.user, a.instruction⟩]

/-- What the agent's model is asked for a step. -/
def requestFor (config : Option Chat.GenerationConfig) (a : Assignment) : Chat.Request :=
  ⟨a.agent.model, conversation a, config⟩

/-- Asks a chat model, by the name that the agent gives. -/
def ofModel (model : Chat.Model σ) (config : Option Chat.GenerationConfig) : Worker σ :=
  ⟨"model", fun a memory =>
    let (answer, memory) := model.reply (requestFor config a) memory
    (answer.mapError (·.message), memory)⟩

end Worker

end AgentFlow
