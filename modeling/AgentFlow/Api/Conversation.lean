import AgentFlow.Chain.Run
import AgentFlow.Http.Message

/-!
# Conversations

A client submits the messages of a conversation and gets the next one. The reply is what a chain of
one step adds, whose worker repeats the latest message.
-/

namespace AgentFlow

open Http Time

/-- The response to a request that failed. -/
def WorkflowError.response (e : WorkflowError) : Response := .failure e.status e.report

namespace Api

/-- What a client submits: entries of which nothing is known yet. -/
structure Conversation where
  entries : List Json

namespace Conversation

/-- The fields of a conversation. -/
def record :=
  Record.mk "ChatRequest"
    (.cons (.withDefault "messages" (.list .free) []) .nil)
    (fun (entries, ()) => Conversation.mk entries)
    fun c => (c.entries, ())

/-- Conversations as clients submit them. -/
def codec : Codec Conversation := record.codec

end Conversation

/-- The message of an entry with a role and a content. Whoever is not the assistant is a user. -/
def messageOf? (entry : Json) : Option Message := do
  let role ← (entry.member? "role").bind Json.text?
  let content ← (entry.member? "content").bind Json.text?
  return ⟨if role = "assistant" then "assistant" else "user", content, none⟩

/-- The agent that converses. -/
def conversant (now : Instant) : Agent := .ofDraft 0 ⟨"agent", none, defaultModel, ""⟩ now

/-- The chain that answers a conversation. -/
def conversationChain (now : Instant) : Except WorkflowError Chain :=
  let agent := conversant now
  Chain.assemble "chat" [⟨Node.idAt 0 agent.name, agent, ""⟩]

/-- The state after the conversation has been answered. -/
def converse (now : Instant) (messages : List Message) : Except WorkflowError ExecutionState := do
  let chain ← conversationChain now
  (chain.run (.echo : Worker Unit) (.ofMessages messages) ()).1

/-- The reply to a conversation. Where one entry is no message nothing is done. -/
def reply (now : Instant) (conversation : Conversation) : Response :=
  match conversation.entries.mapM messageOf? with
  | none => .failure 400 "Invalid message format"
  | some messages =>
    match converse now messages with
    | .error e => e.response
    | .ok state =>
      let content := (state.lastMessage?.map Message.content).getD ""
      .json 200 (.object [("role", .string "assistant"), ("content", .string content)])

end Api

end AgentFlow
