import AgentFlow.Chat.Model
import AgentFlow.Http.Message
import AgentFlow.Json.Reader
import AgentFlow.Text.Blank

/-!
# Completions from a provider

A chat model behind a provider's address: each request is one call, and the text of the first choice
of the reply is the answer. Which address a text writes and which text a body holds is up to the
client that carries out the calls, and what becomes of a message to the network, where nobody may be
reached.
-/

namespace AgentFlow.Chat

open Http

variable {σ : Type}

/-! ### Calls -/

/-- A call of a provider with the caller's key. -/
structure Call where
  method : Method
  url : String
  key : String
  body : Json

/-- What comes back of a call. -/
structure Reply where
  status : Nat
  fields : List HeaderField
  /-- The bytes of the body, or why they did not all arrive. -/
  body : Except String ByteArray

/-- What a client makes of texts and bytes. -/
structure Client where
  /-- The address that a text writes, or why it writes none. -/
  address : String → Except String Url
  /-- What is said of a text that no header field can hold. -/
  badField : String
  /-- The text of a body, read by the encoding that the fields name. -/
  text : List HeaderField → ByteArray → String
  /-- What is said of a body that is no JSON. -/
  notJson : ByteArray → String

/-- What becomes of messages, with a memory of type `σ`: the reply that comes at last, or why there
is none. -/
structure Network (σ : Type) where
  exchange : Outgoing → σ → Except String Reply × σ

/-- What carries out calls, with a memory of type `σ`. -/
structure Transport (σ : Type) where
  client : Client
  send : Call → σ → Except String Reply × σ

/-- What goes out for a call. Nothing does if the address is none or no header field can hold the
key. -/
def Client.outgoing (client : Client) (call : Call) : Except String Outgoing := do
  let url ← client.address call.url
  let bearer := "Bearer " ++ call.key
  if isFieldValue bearer then
    return ⟨call.method, url, [("authorization", bearer), ("content-type", "application/json")],
      call.body.compactText.toUTF8⟩
  else throw client.badField

/-- The transport of a client that has a network. -/
def Client.over (client : Client) (network : Network σ) : Transport σ where
  client := client
  send call memory :=
    match client.outgoing call with
    | .error reason => (.error reason, memory)
    | .ok message => network.exchange message memory

/-- What is said where nobody is reached. -/
def unsent : String := "error sending request"

/-- The transport that reaches nobody. -/
def Transport.unreachable : Transport σ where
  client := ⟨fun _ => .error unsent, unsent, fun _ _ => "", fun _ => unsent⟩
  send _ memory := (.error unsent, memory)

/-! ### Completions -/

/-- The provider's name in messages. -/
def providerName : String := "OpenAI"

/-- Where completions are asked for when no address is given. -/
def defaultBaseUrl : String := "https://api.openai.com/v1"

/-- The body of a call: the model, the turns, and the settings that are set. -/
def Request.body (request : Request) : Json :=
  let config := request.config.getD .empty
  let setting (name : String) (value? : Option Json) := (value?.map (name, ·)).toList
  Json.canonical <| .object <|
    [("model", .string request.model), ("messages", (Codec.list Turn.codec).write request.turns)] ++
      setting "temperature" (config.temperature.map Codec.single.write) ++
      setting "max_tokens" (config.maxOutputTokens.map .int) ++
      setting "top_p" (config.topP.map Codec.single.write)

/-- The text of the first choice of a reply. -/
def firstChoice (reply : Json) : Except Failure String :=
  match (reply.member? "choices").bind Json.items? with
  | none | some [] => .error (.invalidResponse "no choices in response")
  | some (choice :: _) =>
    match ((choice.member? "message").bind (·.member? "content")).bind Json.text? with
    | none => .error (.invalidResponse "choice has no text content")
    | some text => .ok text

/-- The JSON value that the bytes of a body write. -/
def jsonOf? (bytes : ByteArray) : Option Json :=
  (String.fromUTF8? bytes).bind fun text => (Json.parse text).toOption

/-- What a reply answers: a status other than success is a failure whatever the body holds. -/
def Client.answer (client : Client) (reply : Reply) : Except Failure String :=
  if 200 ≤ reply.status ∧ reply.status < 300 then
    match reply.body with
    | .error reason => .error (.transport reason)
    | .ok bytes => (jsonOf? bytes).elim (.error (.transport (client.notJson bytes))) firstChoice
  else
    let text := reply.body.toOption.elim "" (client.text reply.fields)
    .error (.api providerName reply.status text)

/-- What a call comes to. -/
def Client.outcome (client : Client) : Except String Reply → Except Failure String
  | .error reason => .error (.transport reason)
  | .ok reply => client.answer reply

/-- A provider's address, without slashes at its end, and the key for it. -/
structure Endpoint where
  key : String
  base : String
deriving DecidableEq, Repr

namespace Endpoint

/-- The endpoint for a key and an address. There has to be a key that is not blank. -/
def ofSettings (key? base? : Option String) : Except Failure Endpoint :=
  match key?.filter (!Text.allBlank ·) with
  | none => .error (.apiKeyMissing providerName)
  | some key =>
    let base := (base?.getD defaultBaseUrl).toList
    .ok ⟨key, String.ofList (base.reverse.dropWhile (· == '/')).reverse⟩

/-- Where completions are posted to. -/
def url (endpoint : Endpoint) : String := endpoint.base ++ "/chat/completions"

/-- The call for a request. -/
def call (endpoint : Endpoint) (request : Request) : Call :=
  ⟨.post, endpoint.url, endpoint.key, request.body⟩

/-- The chat model at an endpoint. -/
def model (endpoint : Endpoint) (transport : Transport σ) : Model σ where
  reply request memory :=
    let (received, memory) := transport.send (endpoint.call request) memory
    (transport.client.outcome received, memory)

end Endpoint

end AgentFlow.Chat
