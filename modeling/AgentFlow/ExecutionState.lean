import AgentFlow.Codec.Record

/-!
# Execution states

The state that is handed from step to step of a run, and the updates by which steps change it. Its
three parts merge differently: messages are appended, results replace those under the same name, and
the current agent is replaced.
-/

namespace AgentFlow

/-- One entry of the message log. -/
structure Message where
  role : String
  content : String
  name : Option String
deriving DecidableEq, Repr

namespace Message

/-- A message by no one in particular. -/
def anonymous (role content : String) : Message := ⟨role, content, none⟩

/-- A message that an agent contributes. -/
def ofAgent (name content : String) : Message := ⟨"assistant", content, some name⟩

/-- The fields of a message. -/
def record :=
  Record.mk "Message"
    (.cons (.required "role" .string) <|
      .cons (.required "content" .string) <|
      .cons (.hiddenIfNull "name" .string) .nil)
    (fun (role, content, name, ()) => Message.mk role content name)
    fun m => (m.role, m.content, m.name, ())

/-- Messages as they are exchanged. -/
def codec : Codec Message := record.codec

end Message

/-- The results of a run: for each agent's name the latest text. -/
abbrev Results := SortedMap String String

/-- The state of a run between two steps. -/
structure ExecutionState where
  messages : List Message
  currentAgent : String
  results : Results
deriving DecidableEq

/-- What a step contributes; a part that is left empty changes nothing. -/
structure StateUpdate where
  messages : List Message
  results : Results
  currentAgent : Option String
deriving DecidableEq

namespace ExecutionState

/-- The state before the first step, given the conversation so far. -/
def ofMessages (messages : List Message) : ExecutionState := ⟨messages, "system", .empty⟩

/-- The state before the first step. -/
def initial : ExecutionState := ofMessages []

/-- The state after an update. -/
def apply (state : ExecutionState) (update : StateUpdate) : ExecutionState where
  messages := state.messages ++ update.messages
  currentAgent := update.currentAgent.getD state.currentAgent
  results := state.results.insertMany update.results.entries

/-- The state after updates, from the first to the last. -/
def applyAll (state : ExecutionState) (updates : List StateUpdate) : ExecutionState :=
  updates.foldl apply state

/-- The latest message. -/
def lastMessage? (state : ExecutionState) : Option Message := state.messages.getLast?

/-- The fields of a state. -/
def record :=
  Record.mk "ExecutionState"
    (.cons (.withDefault "messages" (.list Message.codec) []) <|
      .cons (.withDefault "current_agent" .string initial.currentAgent) <|
      .cons (.withDefault "results" (.stringMap .string) .empty) .nil)
    (fun (messages, currentAgent, results, ()) => ExecutionState.mk messages currentAgent results)
    fun s => (s.messages, s.currentAgent, s.results, ())

/-- States as they are exchanged. -/
def codec : Codec ExecutionState := record.codec

end ExecutionState

namespace StateUpdate

/-- The update of a step: one message by its agent, and the same text as the agent's result. -/
def ofStep (agent output : String) : StateUpdate :=
  ⟨[.ofAgent agent output], SortedMap.empty.insert agent output, some agent⟩

/-- The fields of an update. -/
def record :=
  Record.mk "StateUpdate"
    (.cons (.withDefault "messages" (.list Message.codec) []) <|
      .cons (.withDefault "results" (.stringMap .string) .empty) <|
      .cons (.optionalWithDefault "current_agent" .string) .nil)
    (fun (messages, results, currentAgent, ()) => StateUpdate.mk messages results currentAgent)
    fun u => (u.messages, u.results, u.currentAgent, ())

/-- Updates as they are exchanged. -/
def codec : Codec StateUpdate := record.codec

end StateUpdate

/-- What is told of a finished run. -/
structure RunOutcome where
  results : Results
  messages : List Message
deriving DecidableEq

namespace RunOutcome

/-- The outcome of a run that ended in a state. -/
def ofState (state : ExecutionState) : RunOutcome := ⟨state.results, state.messages⟩

/-- The fields of an outcome. -/
def record :=
  Record.mk "RunOutcome"
    (.cons (.required "results" (.stringMap .string)) <|
      .cons (.required "messages" (.list Message.codec)) .nil)
    (fun (results, messages, ()) => RunOutcome.mk results messages)
    fun o => (o.results, o.messages, ())

/-- Outcomes as they are exchanged. -/
def codec : Codec RunOutcome := record.codec

end RunOutcome

end AgentFlow
