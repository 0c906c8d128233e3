import AgentFlow.Chat.Completion
import AgentFlow.Text.LowerCase
import AgentFlow.Text.Parts
import AgentFlow.Worker

/-!
# Settings

The settings of the program are read from named texts, such as the variables of an environment. A
name without a text keeps its default; a text that is no value of its setting is refused.
-/

namespace AgentFlow

open Number

/-- Why settings are refused. -/
inductive SettingsError where
  /-- The text is no port number. -/
  | invalidPort (text : String)
  /-- No worker has this name; it is given trimmed and in small letters. -/
  | unknownWorker (name : String)
  /-- The text is no number. -/
  | invalidTemperature (text : String)
deriving DecidableEq, Repr

/-- The wording of a refusal. -/
def SettingsError.message : SettingsError → String
  | invalidPort text => s!"Configuration error: Invalid AGENTOPS_PORT: {text}"
  | unknownWorker name => s!"Configuration error: Unknown worker kind: {name}"
  | invalidTemperature text => s!"Configuration error: Invalid MODEL_TEMPERATURE: {text}"

/-- What performs the steps of workflows. -/
inductive WorkerKind where
  /-- Nothing is done but told. -/
  | placeholder
  /-- A chat model is asked. -/
  | model
deriving DecidableEq, Repr

/-- The kind of worker that a text names, whatever blanks surround it and in letters of any case. -/
def WorkerKind.ofText (text : String) : Except SettingsError WorkerKind :=
  let name := Text.lower (Text.trimmed text)
  if name ∈ ["placeholder", "stub"] then .ok .placeholder
  else if name ∈ ["model", "llm", "openai"] then .ok .model
  else .error (.unknownWorker name)

/-- The settings of the program. -/
structure Settings where
  host : String
  port : Nat
  /-- The path of the catalog that the records come from. -/
  catalog : Option String
  worker : WorkerKind
  /-- The origins whose pages may use the interface. -/
  allowedOrigins : List String
  apiKey : Option String
  baseUrl : Option String
  temperature : Option Single

namespace Settings

/-- The origins of pages that are served on the machine itself. -/
def localOrigins : List String :=
  ["http://localhost", "http://localhost:5173", "http://localhost:3000", "http://127.0.0.1:5173",
    "http://127.0.0.1:3000", "http://127.0.0.1:8000"]

/-- The settings where nothing is given. -/
def default : Settings where
  host := "127.0.0.1"
  port := 8000
  catalog := none
  worker := .placeholder
  allowedOrigins := localOrigins
  apiKey := none
  baseUrl := none
  temperature := none

/-- The number of a port. -/
def readPort (text : String) : Except SettingsError Nat :=
  match readInt? .uint16 text.toList with
  | some n => .ok n.toNat
  | none => .error (.invalidPort text)

/-- A temperature; it may be any number that can be written. -/
def readTemperature (text : String) : Except SettingsError Single :=
  match Binary.read? text.toList with
  | some x => .ok x
  | none => .error (.invalidTemperature text)

/-- The origins between the commas of a text, trimmed, without the empty ones. -/
def readOrigins (text : String) : List String :=
  ((Text.partsOf ',' text).map Text.trimmed).filter (!·.isEmpty)

/-- A setting whose name may have no text. -/
def given {α : Type} (text? : Option String) (otherwise : α)
    (read : String → Except SettingsError α) : Except SettingsError α :=
  text?.elim (.ok otherwise) read

/-- The settings that texts give by name. Of several refusals the first one in this order counts. -/
def ofTexts (text? : String → Option String) : Except SettingsError Settings := do
  let port ← given (text? "AGENTOPS_PORT") default.port readPort
  let worker ← given (text? "AGENTOPS_WORKER") default.worker WorkerKind.ofText
  let temperature ← given (text? "MODEL_TEMPERATURE") none (readTemperature · |>.map some)
  return {
    host := (text? "AGENTOPS_HOST").getD default.host
    port, worker, temperature
    catalog := text? "AGENTOPS_CATALOG"
    allowedOrigins := ((text? "AGENTOPS_ALLOWED_ORIGINS").map readOrigins).getD localOrigins
    apiKey := text? "OPENAI_API_KEY"
    baseUrl := text? "OPENAI_BASE_URL" }

/-- The address to listen at. -/
def address (settings : Settings) : String := s!"{settings.host}:{settings.port}"

/-- What a model is told of how to generate: the temperature, if there is one. -/
def generation (settings : Settings) : Option Chat.GenerationConfig :=
  settings.temperature.map fun t => { Chat.GenerationConfig.empty with temperature := some t }

/-- The worker that the settings ask for. One that asks a model needs a key. -/
def stepWorker {σ : Type} (settings : Settings) (transport : Chat.Transport σ) :
    Except Chat.Failure (Worker σ) :=
  match settings.worker with
  | .placeholder => .ok .placeholder
  | .model =>
    (Chat.Endpoint.ofSettings settings.apiKey settings.baseUrl).map fun endpoint =>
      .ofModel (endpoint.model transport) settings.generation

end Settings

end AgentFlow
