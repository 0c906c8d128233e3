import AgentFlow.Settings

/-!
# Arguments

The commands of the program and their options. An option is given at most once, by its long name or
its letter, with its value after an equals sign, directly after the letter, or as the next argument;
such an argument does not begin with a hyphen, unless it is the hyphen alone.
-/

namespace AgentFlow.CommandLine

open Number

/-- What is to be done. -/
inductive Command where
  /-- Offer the interface to clients; what is given here goes before the settings. -/
  | serve (host : Option String) (listenAt : Option Nat) (catalog : Option String)
      (worker : Option WorkerKind)
  /-- Run a workflow of a catalog, possibly after a message of the user. -/
  | run (catalog : String) (workflow : Int) (input : Option String) (worker : Option WorkerKind)
  /-- Compile every workflow of a catalog. -/
  | validate (catalog : String)
deriving DecidableEq, Repr

/-- What the arguments ask for. -/
inductive Invocation where
  | command (c : Command)
  | help
  | version
  /-- The arguments cannot be understood. -/
  | misuse
deriving DecidableEq, Repr

/-- What the options of a command have given so far. -/
structure Given where
  host : Option String
  listenAt : Option Nat
  catalog : Option String
  workflow : Option Int
  input : Option String
  worker : Option WorkerKind
deriving DecidableEq, Repr

/-- An option that takes a value. -/
structure OptionSpec where
  long : String
  letter : Option Char
  /-- Adds a value to what has been given; nothing if it was given before or is no such value. -/
  accept : String → Given → Option Given

/-- The value of an option that was not given before. -/
def once {α : Type} (earlier value? : Option α) : Option (Option α) :=
  if earlier.isSome then none else value?.map some

/-- A path is not empty. -/
def readPath? (text : String) : Option String := if text.isEmpty then none else some text

/-- A port is an integer in the range of ports. -/
def readPort? (text : String) : Option Nat :=
  ((readInt? .int64 text.toList).filter IntRange.uint16.contains).map Int.toNat

namespace OptionSpec

/-- The address to listen at. -/
def host : OptionSpec :=
  ⟨"host", none, fun text g => do return { g with host := ← once g.host (some text) }⟩

/-- The port to listen at. -/
def port : OptionSpec :=
  ⟨"port", some 'p',
    fun text g => do return { g with listenAt := ← once g.listenAt (readPort? text) }⟩

/-- The file of the catalog. -/
def catalog : OptionSpec :=
  ⟨"catalog", some 'c',
    fun text g => do return { g with catalog := ← once g.catalog (readPath? text) }⟩

/-- The id of a workflow. -/
def workflow : OptionSpec :=
  ⟨"workflow", some 'i',
    fun text g => do return { g with workflow := ← once g.workflow (readInt? .int64 text.toList) }⟩

/-- A message of the user. -/
def input : OptionSpec :=
  ⟨"input", none, fun text g => do return { g with input := ← once g.input (some text) }⟩

/-- The kind of worker. -/
def worker : OptionSpec :=
  ⟨"worker", some 'w',
    fun text g => do
      return { g with worker := ← once g.worker (WorkerKind.ofText text).toOption }⟩

end OptionSpec

/-- How an argument reads. -/
inductive Word where
  /-- Two hyphens, after which no options follow. -/
  | endOfOptions
  /-- A long name, and what stands after an equals sign. -/
  | long (name : String) (value : Option String)
  /-- A letter, and what stands directly after it. -/
  | letter (c : Char) (rest : List Char)
  | value (text : String)

/-- How an argument reads. -/
def Word.ofArgument (text : String) : Word :=
  match text.toList with
  | ['-', '-'] => .endOfOptions
  | '-' :: '-' :: cs =>
    .long (String.ofList (cs.takeWhile (· != '='))) <|
      match cs.dropWhile (· != '=') with
      | [] => none
      | _ :: after => some (String.ofList after)
  | '-' :: c :: cs => .letter c cs
  | _ => .value text

/-- What stands directly after a letter is its value, an equals sign apart. -/
def attached : List Char → Option String
  | [] => none
  | '=' :: value => some (String.ofList value)
  | value => some (String.ofList value)

/-- How the reading of options ends. -/
inductive Reading where
  | complete (given : Given)
  | help
  | misuse

/-- What an option that has just been named makes of its value: an attached one is taken, else the
next argument is waited for. -/
def name (spec : OptionSpec) (value? : Option String) (given : Given) :
    Option (Option OptionSpec × Given) :=
  match value? with
  | none => some (some spec, given)
  | some value => (spec.accept value given).map (none, ·)

/-- Reads the options of a command. `waiting` is the option whose value is the next argument. -/
def readOptions (specs : List OptionSpec) :
    Option OptionSpec → Given → List String → Reading
  | none, given, [] => .complete given
  | some _, _, [] => .misuse
  | waiting, given, argument :: rest =>
    match waiting, Word.ofArgument argument with
    | some spec, .value text =>
      match spec.accept text given with
      | some given => readOptions specs none given rest
      | none => .misuse
    | none, .endOfOptions => if rest.isEmpty then .complete given else .misuse
    | none, .long "help" none => .help
    | none, .letter 'h' _ => .help
    | none, .long long value? =>
      match (specs.find? (·.long == long)).bind (name · value? given) with
      | some (waiting, given) => readOptions specs waiting given rest
      | none => .misuse
    | none, .letter c cs =>
      match (specs.find? (·.letter == some c)).bind (name · (attached cs) given) with
      | some (waiting, given) => readOptions specs waiting given rest
      | none => .misuse
    | _, _ => .misuse

/-- The command that the options of one give, if none that it needs is missing. -/
def invocation (specs : List OptionSpec) (command? : Given → Option Command)
    (arguments : List String) : Invocation :=
  match readOptions specs none ⟨none, none, none, none, none, none⟩ arguments with
  | .complete given => (command? given).elim .misuse .command
  | .help => .help
  | .misuse => .misuse

/-- The names of the commands. -/
def commandNames : List String := ["serve", "run", "validate", "help"]

/-- What arguments ask for. -/
def Invocation.ofArguments : List String → Invocation
  | [] => .misuse
  | "serve" :: rest =>
    invocation [.host, .port, .catalog, .worker]
      (fun g => some (.serve g.host g.listenAt g.catalog g.worker)) rest
  | "run" :: rest =>
    invocation [.catalog, .workflow, .input, .worker]
      (fun g => do return .run (← g.catalog) (← g.workflow) g.input g.worker) rest
  | "validate" :: rest =>
    invocation [.catalog] (fun g => g.catalog.map .validate) rest
  | ["help"] => .help
  | ["help", name] => if name ∈ commandNames then .help else .misuse
  | first :: _ =>
    match Word.ofArgument first with
    | .long "help" none | .letter 'h' _ => .help
    | .long "version" none | .letter 'V' _ => .version
    | _ => .misuse

end AgentFlow.CommandLine
