import AgentFlow.Json.Reader
import AgentFlow.Yaml.Node

/-!
# Codecs

How a type is read from JSON texts, from JSON values and from YAML nodes, and written as a JSON
value. A text is read as it comes: the first fault in it counts, be it one of grammar or of type.
-/

namespace AgentFlow

open Number Json

section Steps

variable {ε α β : Type} {x : Except ε α} {b : β}

/-- What follows a step succeeds if the step does and then the rest. -/
theorem bind_eq_ok_iff {f : α → Except ε β} :
    (x >>= f) = .ok b ↔ ∃ a, x = .ok a ∧ f a = .ok b := by
  cases x with
  | error e => exact ⟨nofun, nofun⟩
  | ok a => exact ⟨fun h => ⟨a, rfl, h⟩, fun ⟨_, heq, h⟩ => Except.ok.inj heq ▸ h⟩

/-- What is made of the result of a step is there if the step succeeds. -/
theorem map_eq_ok_iff {f : α → β} : f <$> x = .ok b ↔ ∃ a, x = .ok a ∧ f a = b := by
  cases x with
  | error e => exact ⟨nofun, nofun⟩
  | ok a => exact ⟨fun h => ⟨a, rfl, Except.ok.inj h⟩, fun ⟨_, heq, h⟩ => h ▸ heq ▸ rfl⟩

end Steps

/-- How a JSON value came to be: some wordings of mismatches depend on it. -/
inductive Origin where
  /-- It was given as a value. -/
  | given
  /-- It was put aside while reading a text, until its type was known. -/
  | buffered

/-- The readers and the writer of a type. -/
structure Codec (α : Type) where
  /-- Reads from a text, in which so many more arrays and objects may be opened. -/
  read : Nat → List Char → Read (α × List Char)
  /-- Reads from a value. -/
  ofJson : Origin → Json → Except Mismatch α
  /-- Reads from a node, in which so many more sequences and mappings may be entered. -/
  ofYaml : Nat → Yaml.Node → Yaml.Decode α
  /-- Writes as a value. -/
  write : α → Json

namespace Codec

variable {α β : Type}

/-- Reads a whole text. -/
def parse (c : Codec α) (text : String) : Read α := readWhole (c.read maxNesting) text.toList

/-- Reads a type without parts: a value without parts is read first and then interpreted. -/
def readLeaf (interpret : Json → Except Mismatch α) (cs : List Char) : Read (α × List Char) :=
  match skipSpace cs with
  | [] => .error (.here [] .endOfValue)
  | c :: r =>
    if c = '[' ∨ c = '{' then
      match interpret (if c = '[' then .array [] else .object []) with
      | .ok x => .ok (x, c :: r)
      | .error m => .error (.here (c :: r) (.mismatch m))
    else do
      let (v, rest) ← readScalar c r
      match interpret v with
      | .ok x => return (x, rest)
      | .error m => .error (.here rest (.mismatch m))

/-- A codec for a type without parts. -/
def leaf (interpret : Json → Except Mismatch α) (ofScalar : Yaml.Node → Option α)
    (write : α → Json) : Codec α where
  read _ := readLeaf interpret
  ofJson _ := interpret
  ofYaml _ node := do Yaml.Decode.ofOption (ofScalar (← node.resolve))
  write

/-- Strings. Any scalar of a document is a string if one is wanted. -/
def string : Codec String :=
  leaf
    (fun v => match v with
      | .string s => .ok s
      | v => .error (.kind v.found "a string"))
    (fun node => match node with
      | .scalar _ _ text => some (String.ofList text)
      | _ => none)
    .string

/-- Integers of a range, whose name is used in messages. -/
def integer (range : IntRange) (name : String) : Codec Int :=
  leaf
    (fun v => match v with
      | .int n => if range.contains n then .ok n else .error (.value v.found name)
      | v => .error (.kind v.found name))
    (fun node => match node with
      | .scalar tag style text =>
        if style = .plain ∨ (style = .literal ∧ tag = some Yaml.intTag) then Yaml.int? range text
        else none
      | _ => none)
    .int

/-- Ids and step keys. -/
def int64 : Codec Int := integer .int64 "i64"

/-- Numbers of tokens. -/
def uint32 : Codec Int := integer .uint32 "u32"

/-- Positions. -/
def position : Codec Nat :=
  let c := integer .uint64 "usize"
  { read := fun depth cs => (c.read depth cs).map fun (n, rest) => (n.toNat, rest)
    ofJson := fun origin v => (c.ofJson origin v).map Int.toNat
    ofYaml := fun depth node => do return (← c.ofYaml depth node).toNat
    write := fun n => .int n }

/-- Numbers of 32 bits. They are written with the precision of doubles, and those that are not
finite as null. -/
def single : Codec Single :=
  leaf
    (fun v => match v with
      | .int n => .ok (.ofInt n)
      | .float x => .ok x.convert
      | v => .error (.kind v.found "f32"))
    (fun node => match node with
      | .scalar _ .plain text => (Yaml.float? text).map Binary.convert
      | _ => none)
    (fun x => if x.isFinite then .float x.convert else .null)

/-- A value that may be null. -/
def optional (c : Codec α) : Codec (Option α) where
  read depth cs :=
    match skipSpace cs with
    | 'n' :: r => do
      let ((), rest) ← readWord "ull".toList r
      return (none, rest)
    | r => do
      let (x, rest) ← c.read depth r
      return (some x, rest)
  ofJson origin v :=
    match v with
    | .null => .ok none
    | v => (c.ofJson origin v).map some
  ofYaml depth node := do
    let node ← node.resolve
    let isAbsent := match node with
      | .scalar tag .plain text =>
        match tag with
        | none => text.isEmpty || Yaml.isNull text
        | some tag => tag == Yaml.nullTag
      | _ => false
    if !isAbsent then return some (← c.ofYaml depth node)
    else match node with
      | .scalar (some _) _ text => if Yaml.isNull text then return none else Yaml.Decode.fail
      | _ => return none
  write := Json.ofOption c.write

/-- The elements of a sequence of a document. -/
def listOfYaml (one : Yaml.Node → Yaml.Decode α) : List Yaml.Node → Yaml.Decode (List α)
  | [] => pure []
  | node :: rest => do
    let x ← one node
    return x :: (← listOfYaml one rest)

/-- Lists. An empty plain scalar of a document is an empty list. -/
def list (c : Codec α) : Codec (List α) where
  read depth cs :=
    match depth, skipSpace cs with
    | _, [] => .error (.here [] .endOfValue)
    | 0, '[' :: r => .error (.next ('[' :: r) .tooDeep)
    | depth + 1, '[' :: r => readArray (c.read depth) r
    | _, r => readLeaf (fun v => .error (.kind v.found "a sequence")) r
  ofJson origin v :=
    match v with
    | .array items => items.mapM (c.ofJson origin)
    | v => .error (.kind v.found "a sequence")
  ofYaml depth node := do
    match ← node.resolve, depth with
    | .sequence _ items, depth + 1 => listOfYaml (c.ofYaml depth) items
    | .scalar _ .plain [], _ => return []
    | _, _ => Yaml.Decode.fail
  write xs := .array (xs.map c.write)

/-- Maps from strings. Of equal keys the last one counts. -/
def stringMap (c : Codec α) : Codec (SortedMap String α) where
  read depth cs :=
    match depth, skipSpace cs with
    | _, [] => .error (.here [] .endOfValue)
    | 0, '{' :: r => .error (.next ('{' :: r) .tooDeep)
    | depth + 1, '{' :: r => do
      let (members, rest) ← readObject (c.read depth) r
      return (.ofList members, rest)
    | _, r => readLeaf (fun v => .error (.kind v.found "a map")) r
  ofJson origin v :=
    match v with
    | .object members => do
      let entries ← members.mapM fun (k, v) => return (k, ← c.ofJson origin v)
      return .ofList entries
    | v => .error (.kind v.found "a map")
  ofYaml depth node := do
    match ← node.resolve, depth with
    | .mapping _ pairs, depth + 1 =>
      let entries ← listOfPairs depth pairs
      return .ofList entries
    | .scalar _ .plain [], _ => return .empty
    | _, _ => Yaml.Decode.fail
  write m := .object (m.entries.map fun (k, x) => (k, c.write x))
where
  /-- The entries of a mapping of a document. -/
  listOfPairs (depth : Nat) : List (Yaml.Node × Yaml.Node) → Yaml.Decode (List (String × α))
    | [] => pure []
    | (key, value) :: rest => do
      let k ← string.ofYaml depth key
      let x ← c.ofYaml depth value
      return (k, x) :: (← listOfPairs depth rest)

/-- The value for a name, if the name is known. -/
def ofName (names : List (String × α)) (name : String) : Except Mismatch α :=
  match lookupEntry name names with
  | some x => .ok x
  | none => .error (.variant name (names.map (·.1)))

/-- Types of named values without parts. A name may also be the only key of an object whose value is
null, or the tag of an empty node. -/
def enumeration (names : List (String × α)) (write : α → String) : Codec α where
  read depth cs :=
    match depth, skipSpace cs with
    | _, [] => .error (.here [] .endOfValue)
    | 0, '{' :: r => .error (.next ('{' :: r) .tooDeep)
    | _ + 1, '{' :: r => readTagged r
    | _, '"' :: r => readName r
    | _, r => .error (.next r .expectedValue)
  ofJson _ v :=
    match v with
    | .string s => ofName names s
    | .object [(k, v)] => do
      let x ← ofName names k
      match v with
      | .null => return x
      | v => .error (.kind v.found "unit")
    | .object _ => .error (.value .object "map with a single key")
    | v => .error (.kind v.found "string or map")
  ofYaml _ node := do
    let node ← node.resolve
    let name ← match node with
      | .scalar tag style text =>
        match Yaml.localTag? tag with
        | some name =>
          if style = .plain ∧ (text.isEmpty ∨ Yaml.isNull text) then pure name
          else Yaml.Decode.fail
        | none => pure (String.ofList text)
      | _ => Yaml.Decode.fail
    Yaml.Decode.ofOption (ofName names name).toOption
  write x := .string (write x)
where
  /-- A name up to its closing quote. -/
  readName (cs : List Char) : Read (α × List Char) := do
    let (name, rest) ← readString cs
    match ofName names name with
    | .ok x => return (x, rest)
    | .error m => .error (.here rest (.mismatch m))
  /-- A name as the only key of an object, whose opening brace has been read. -/
  readTagged (cs : List Char) : Read (α × List Char) :=
    let isUnit : Json → Except Mismatch Unit := fun v => match v with
      | .null => .ok ()
      | v => .error (.kind v.found "unit")
    match skipSpace cs with
    | [] => .error (.here [] .endOfValue)
    | '"' :: r => do
      let (name, rest) ← readString r
      match ofName names name with
      | .error m => .error (.here rest (.mismatch m))
      | .ok x => do
        let ((), rest) ← readColon rest
        let ((), rest) ← Read.within (.variant name) (readLeaf isUnit rest)
        match skipSpace rest with
        | '}' :: rest => return (x, rest)
        | [] => .error (.here [] .endOfObject)
        | r => .error (.here r .expectedValue)
    | c :: r => readLeaf (fun v => .error (.kind v.found "variant identifier")) (c :: r)

/-- The integers of 128 bits that a document may write, but that no value has. -/
def isHugeInt (text : List Char) : Bool :=
  (Yaml.int? .uint128 text).isSome || (Yaml.int? .int128 text).isSome

/-- A number of a document as a value; one that is not finite has none. -/
def floatValue (x : Double) : Json := if x.isFinite then .float x else .null

/-- The meaning of a plain scalar without a tag. -/
def plainValue? (text : List Char) : Option Json :=
  if text.isEmpty || Yaml.isNull text then some .null
  else match Yaml.bool? text with
    | some b => some (.bool b)
    | none =>
      match (Yaml.int? .uint64 text).or (Yaml.int? .int64 text) with
      | some n => some (.int n)
      | none =>
        if isHugeInt text then none
        else if Yaml.hasLeadingZero text then some (.string (String.ofList text))
        else match Yaml.float? text with
          | some x => some (floatValue x)
          | none => some (.string (String.ofList text))

/-- The meaning of a scalar where any value may stand. -/
def scalarValue? (tag : Option String) (style : Yaml.Style) (text : List Char) : Option Json :=
  match tag with
  | none => if style = .plain then plainValue? text else some (.string (String.ofList text))
  | some name =>
    if (Yaml.localTag? tag).isSome then none
    else if name = Yaml.boolTag then (Yaml.bool? text).map .bool
    else if name = Yaml.intTag then
      ((Yaml.int? .uint64 text).or (Yaml.int? .int64 text)).map .int
    else if name = Yaml.floatTag then (Yaml.float? text).map floatValue
    else if name = Yaml.nullTag then if Yaml.isNull text then some .null else none
    else some (.string (String.ofList text))

/-- The keys and values of a mapping. -/
def pairsOfYaml (one : Yaml.Node → Yaml.Decode Json) :
    List (Yaml.Node × Yaml.Node) → Yaml.Decode (List (String × Json))
  | [] => pure []
  | (key, node) :: rest => do
    match ← one key with
    | .string k => do
      let v ← one node
      return (k, v) :: (← pairsOfYaml one rest)
    | _ => Yaml.Decode.fail

/-- The value of a node, entering at most `depth` sequences and mappings. All keys must be strings,
and a tag of the document's own has no meaning. -/
def freeOfYaml : Nat → Yaml.Node → Yaml.Decode Json
  | depth, node => do
    match ← node.resolve with
    | .scalar tag style text => Yaml.Decode.ofOption (scalarValue? tag style text)
    | .sequence tag items =>
      if (Yaml.localTag? tag).isSome then Yaml.Decode.fail
      else match depth with
        | 0 => Yaml.Decode.fail
        | depth + 1 => return .array (← listOfYaml (freeOfYaml depth) items)
    | .mapping tag pairs =>
      if (Yaml.localTag? tag).isSome then Yaml.Decode.fail
      else match depth with
        | 0 => Yaml.Decode.fail
        | depth + 1 => return .object (← pairsOfYaml (freeOfYaml depth) pairs)
    | .reference _ => Yaml.Decode.fail

/-- Free values, in canonical form. -/
def free : Codec Json where
  read depth cs := readCanonical depth cs
  ofJson _ v := .ok v.canonical
  ofYaml depth node := do return (← freeOfYaml depth node).canonical
  write v := v

end Codec

end AgentFlow
