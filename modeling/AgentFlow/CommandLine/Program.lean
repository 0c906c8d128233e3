import AgentFlow.Api.Origins
import AgentFlow.Catalog
import AgentFlow.CommandLine.Arguments
import AgentFlow.CommandLine.EnvFile

/-!
# The program

What the program does for its arguments, given its environment and the files it may read: it ends
with an exit code and texts, or it has got ready to serve clients.
-/

namespace AgentFlow.CommandLine

open Time

variable {σ : Type}

/-- What the program finds around it. -/
structure Surroundings where
  inherited : Environment
  /-- The bytes of the file at a path, or why there are none. -/
  file : String → Except String ByteArray
  now : Instant

/-- All that is needed to serve clients. -/
structure Service (σ : Type) where
  /-- Where to listen. -/
  address : String
  store : Store
  worker : Worker σ
  origins : Api.Origins

/-- What becomes of the program. -/
inductive Outcome (σ : Type) where
  /-- It ends with an exit code and what it has written to its output and for its errors. -/
  | ended (code : Nat) (output error : String)
  /-- It is ready to serve. -/
  | serving (service : Service σ)

/-- The program gives up for a reason. -/
def Outcome.failed (reason : String) : Outcome σ := .ended 1 "" s!"Error: {reason}\n"

/-- What is said of arguments that cannot be understood, and of the program when it is asked. -/
def usage : String :=
  "Usage: agentops serve [--host HOST] [-p PORT] [-c CATALOG] [-w WORKER]\n" ++
  "       agentops run -c CATALOG -i WORKFLOW [--input TEXT] [-w WORKER]\n" ++
  "       agentops validate -c CATALOG\n"

/-- The name and version of the program. -/
def version : String := "agentops-rs 0.1.0\n"

namespace Surroundings

/-- The environment with what a file of variables in the working directory adds to it. -/
def environment (s : Surroundings) : Environment :=
  match s.file ".env" with
  | .ok bytes => EnvFile.extend s.inherited bytes
  | .error _ => s.inherited

/-- The settings that the environment gives. -/
def settings (s : Surroundings) : Except SettingsError Settings :=
  Settings.ofTexts s.environment.get?

/-- The catalog in a file. -/
def catalog (s : Surroundings) (path : String) : Except String Catalog :=
  (Catalog.load s.now (s.file path)).mapError fun _ => s!"Failed to load catalog {path}"

end Surroundings

/-- The line that tells how a workflow compiles. -/
def compileLine (workflow : Workflow) (result : Except WorkflowError Chain) : String :=
  match result with
  | .ok chain =>
    let steps := " -> ".intercalate chain.nodeIds
    s!"[ok] {workflow.id} ({workflow.name}): {steps}\n"
  | .error e => s!"[error] {workflow.id} ({workflow.name}): {e.message}\n"

/-- Compiles every entry of a catalog against the agents that the catalog gives. -/
def validate (catalog : Catalog) : Outcome σ :=
  let roster := (Store.empty.seed catalog).roster
  let results := catalog.workflows.map fun w => (w, w.compile roster)
  let output := String.join (results.map fun (w, result) => compileLine w result)
  let failures := results.countP fun (_, result) => !result.isOk
  if failures = 0 then .ended 0 output ""
  else .ended 1 output s!"Error: {failures} of {results.length} workflows failed to compile\n"

/-- The state that a run begins with: a message of the user, if there is one. -/
def opening (input : Option String) : ExecutionState :=
  .ofMessages (input.map (Message.anonymous "user")).toList

/-- Runs a workflow of a catalog and writes what comes of it. -/
def runWorkflow (settings : Settings) (transport : Chat.Transport σ) (memory : σ) (path : String)
    (catalog : Catalog) (id : Int) (input : Option String) : Outcome σ :=
  let store := Store.empty.seed catalog
  match store.workflow? id with
  | none => .failed s!"Workflow {id} not found in {path}"
  | some workflow =>
    match settings.stepWorker transport with
    | .error e => .failed e.report
    | .ok worker =>
      match (workflow.run store.roster worker (opening input) memory).1 with
      | .error e => .failed e.message
      | .ok outcome => .ended 0 ((RunOutcome.codec.write outcome).indentedText ++ "\n") ""

/-- Gets ready to serve the records of a catalog. -/
def prepare (settings : Settings) (transport : Chat.Transport σ) (catalog : Catalog) : Outcome σ :=
  match settings.stepWorker transport with
  | .error e => .failed e.report
  | .ok worker =>
    match Api.Origins.ofSettings? settings.allowedOrigins with
    | none => .ended 101 "" "The wildcard cannot be one of several origins.\n"
    | some origins => .serving ⟨settings.address, Store.empty.seed catalog, worker, origins⟩

/-- The settings with those that arguments give. -/
def withArguments (settings : Settings) (host : Option String) (listenAt : Option Nat)
    (catalog : Option String) (worker : Option WorkerKind) : Settings :=
  { settings with
    host := host.getD settings.host
    port := listenAt.getD settings.port
    catalog := catalog.or settings.catalog
    worker := worker.getD settings.worker }

/-- Does what a command asks for. A catalog that does not load ends everything. -/
def Command.perform (s : Surroundings) (settings : Settings) (transport : Chat.Transport σ)
    (memory : σ) : Command → Outcome σ
  | serve host listenAt catalog worker =>
    let settings := withArguments settings host listenAt catalog worker
    match settings.catalog with
    | none => prepare settings transport ⟨[], []⟩
    | some path =>
      match s.catalog path with
      | .error reason => .failed reason
      | .ok catalog => prepare settings transport catalog
  | run path id input worker =>
    let settings := withArguments settings none none none worker
    match s.catalog path with
    | .error reason => .failed reason
    | .ok catalog => runWorkflow settings transport memory path catalog id input
  | validate path =>
    match s.catalog path with
    | .error reason => .failed reason
    | .ok catalog => CommandLine.validate catalog

/-- The path of the catalog that arguments and settings name. -/
def catalogPath? (s : Surroundings) (arguments : List String) : Option String :=
  match Invocation.ofArguments arguments with
  | .command (.serve _ _ catalog _) => catalog.or (s.environment.get? "AGENTOPS_CATALOG")
  | .command (.run path _ _ _) => some path
  | .command (.validate path) => some path
  | _ => none

/-- What becomes of the program with the given arguments. Settings are read before a command is
begun, also those that it does not need. -/
def launch (s : Surroundings) (transport : Chat.Transport σ) (memory : σ)
    (arguments : List String) : Outcome σ :=
  match Invocation.ofArguments arguments with
  | .misuse => .ended 2 "" usage
  | .help => .ended 0 usage ""
  | .version => .ended 0 version ""
  | .command c =>
    match s.settings with
    | .error e => .failed e.message
    | .ok settings => c.perform s settings transport memory

end AgentFlow.CommandLine
