import AgentFlow.Codec.Record

/-!
# Chat models

What is asked of a chat model and what it answers. A model is a function of the request and of its
own memory, so that one whose answers depend on earlier ones, or that fails, is a model too.
-/

namespace AgentFlow.Chat

open Number

/-- Who speaks in a conversation with a model. -/
inductive Role where
  | system
  | user
  | assistant
deriving DecidableEq, Repr

namespace Role

/-- The written name of a role. -/
def name : Role → String
  | system => "system"
  | user => "user"
  | assistant => "assistant"

/-- Roles by name. -/
def codec : Codec Role :=
  .enumeration [("system", system), ("user", user), ("assistant", assistant)] name

end Role

/-- One turn of a conversation with a model. -/
structure Turn where
  role : Role
  content : String
deriving DecidableEq, Repr

namespace Turn

/-- The fields of a turn. -/
def record :=
  Record.mk "ChatMessage"
    (.cons (.required "role" Role.codec) <|
      .cons (.required "content" .string) .nil)
    (fun (role, content, ()) => Turn.mk role content)
    fun t => (t.role, t.content, ())

/-- Turns as they are exchanged. -/
def codec : Codec Turn := record.codec

end Turn

/-- How a model is to generate its answer; what is not set is left to the model. -/
structure GenerationConfig where
  temperature : Option Single
  maxOutputTokens : Option Int
  topP : Option Single
deriving DecidableEq, Repr

namespace GenerationConfig

/-- Nothing is set. -/
def empty : GenerationConfig := ⟨none, none, none⟩

/-- The fields of a configuration. -/
def record :=
  Record.mk "GenerationConfig"
    (.cons (.optional "temperature" .single) <|
      .cons (.optional "max_output_tokens" .uint32) <|
      .cons (.optional "top_p" .single) .nil)
    (fun (temperature, maxOutputTokens, topP, ()) =>
      GenerationConfig.mk temperature maxOutputTokens topP)
    fun c => (c.temperature, c.maxOutputTokens, c.topP, ())

/-- Configurations as they are exchanged. -/
def codec : Codec GenerationConfig := record.codec

end GenerationConfig

/-- What a model is asked. -/
structure Request where
  model : String
  turns : List Turn
  config : Option GenerationConfig
deriving DecidableEq, Repr

/-- Why a model gives no answer. -/
inductive Failure where
  /-- There is no key for the provider. -/
  | apiKeyMissing (provider : String)
  /-- The provider answered with a status other than success. -/
  | api (provider : String) (status : Int) (message : String)
  /-- The answer holds no text where one is expected. -/
  | invalidResponse (message : String)
  /-- Nothing could be sent, nobody was reached, or what came back is no JSON. The reason is worded
  by whoever carries out calls. -/
  | transport (reason : String)
deriving DecidableEq, Repr

/-- The wording of a failure. -/
def Failure.message : Failure → String
  | apiKeyMissing provider => s!"API key not configured for provider: {provider}"
  | api provider status message => s!"API error from {provider} ({status}): {message}"
  | invalidResponse message => s!"Invalid response from model: {message}"
  | transport reason => reason

/-- The wording of a failure that keeps the program from its work. -/
def Failure.report (failure : Failure) : String := s!"Model error: {failure.message}"

/-- A chat model with a memory of type `σ`. -/
structure Model (σ : Type) where
  reply : Request → σ → Except Failure String × σ

end AgentFlow.Chat
