import AgentFlow.CommandLine.Program
import Std.Http
import Std.Time

/-!
# Command line

Runs the program: reads the files that it asks for, writes what it has to say, and answers clients
when it is ready to serve them. Providers of chat models are not reached from here.
-/

namespace AgentFlow

open CommandLine

/-- The instant that the machine's clock shows. -/
def currentInstant : IO Time.Instant := do
  return .ofNanoseconds (← Std.Time.Timestamp.now).toNanosecondsSinceUnixEpoch.val.toNat

/-- The bytes of a file, or why there are none. -/
def readBytes (path : String) : IO (Except String ByteArray) := do
  try
    return .ok (← IO.FS.readBinFile path)
  catch e =>
    return .error (toString e)

/-- The file of variables in the working directory or the nearest directory above it. -/
def readVariables : IO (Except String ByteArray) := do
  let depth := (← IO.currentDir).components.length
  for level in List.range depth do
    if let .ok bytes ← readBytes (String.join (List.replicate level "../") ++ ".env") then
      return .ok bytes
  return .error noSuchFile

/-- What the program finds around it, with the files that the arguments make it ask for. -/
def surroundings (arguments : List String) : IO Surroundings := do
  let inherited := match ← readBytes "/proc/self/environ" with
    | .ok bytes => Environment.ofBytes bytes
    | .error _ => .empty
  let envFile ← readVariables
  let withoutCatalog : Surroundings :=
    ⟨inherited, fun path => if path = ".env" then envFile else .error noSuchFile,
      ← currentInstant⟩
  match catalogPath? withoutCatalog arguments with
  | none => return withoutCatalog
  | some catalog =>
    let bytes ← readBytes catalog
    return { withoutCatalog with
      file := fun path => if path = catalog then bytes else withoutCatalog.file path }

/-- A service and the records that its clients share. -/
structure Shared where
  service : Service Unit
  store : Std.Mutex Store

/-- Answers a request; each one finds the records as the one before it has left them. -/
def Shared.answer (shared : Shared) (r : Http.Request) : IO Http.Response := do
  let now ← currentInstant
  shared.store.atomically do
    let (response, store, ()) :=
      Api.answerFrom shared.service.origins shared.service.worker now r (← get) ()
    set store
    return response

/-- A response as it goes over the wire. -/
def sent (response : Http.Response) : Std.Async.Async (Std.Http.Response Std.Http.Body.Any) := do
  let status := (Std.Http.Status.ofCode none response.status.toUInt16).getD .internalServerError
  let builder := response.fields.foldl (fun b (name, value) => (b.header? name value).getD b)
    (Std.Http.Response.new.status status)
  let full ← builder.fromBytes response.body.content.toUTF8
  return { line := full.line, body := .ofBody full.body, extensions := full.extensions }

instance : Std.Http.Server.Handler Shared where
  ResponseBody := Std.Http.Body.Any
  onRequest shared request := do
    let bytes : ByteArray ← request.body.readAll
    let fields := request.line.headers.toList.map fun (name, value) => (name.value, value.value)
    let r : Http.Request :=
      ⟨.ofName (toString request.line.method), toString request.line.uri, fields, bytes⟩
    sent (← shared.answer r)

/-- Where an address is that is written as a host, a colon and a port. -/
def resolve (address : String) : IO Std.Net.SocketAddress := do
  let parts := Text.partsOf ':' address
  let host := ":".intercalate parts.dropLast
  let port := (((parts.getLast?).bind (·.toNat?)).getD 0).toUInt16
  let found : Array Std.Net.IPAddr ← (Std.Async.DNS.getAddrInfo host (toString port)).block
  match found.toList with
  | .v4 host :: _ => return .v4 ⟨host, port⟩
  | .v6 host :: _ => return .v6 ⟨host, port⟩
  | [] => throw (IO.userError s!"no address for {address}")

/-- What is said when nobody can listen at an address. -/
def refusal : IO.Error → String
  | .resourceBusy _ _ => "Address already in use (os error 98)"
  | e => toString e

/-- Serves clients until the program is stopped. -/
def serve (service : Service Unit) : IO UInt32 := do
  try
    let shared : Shared := ⟨service, ← Std.Mutex.new service.store⟩
    let address ← resolve service.address
    let server ← (Std.Http.Server.serve address shared).block
    server.waitShutdown.block
    return 0
  catch e =>
    IO.eprintln s!"Error: {refusal e}"
    return 1

end AgentFlow

/-- Runs the program with its arguments. -/
def main (arguments : List String) : IO UInt32 := do
  let s ← AgentFlow.surroundings arguments
  match AgentFlow.CommandLine.launch s .unreachable () arguments with
  | .ended code output error =>
    IO.print output
    IO.eprint error
    return code.toUInt32
  | .serving service => AgentFlow.serve service
