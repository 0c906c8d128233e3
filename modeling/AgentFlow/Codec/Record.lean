import AgentFlow.Codec.Basic
import AgentFlow.Json.Skip

/-!
# Codecs of records

A record is described by its fields, in order. It is read from an object, whose members may come in
any order and of which unknown ones are passed over, or from an array of its fields; a field comes
at most once, and what is missing may have a default. It is written as an object.
-/

namespace AgentFlow

open Json

/-- What stands for a field that is missing. -/
inductive Absent (α : Type) where
  /-- Nothing: the field must be given. -/
  | refused
  /-- A value in an object; an array must give the field. -/
  | omitted (x : α)
  /-- A value. -/
  | default (x : α)

/-- One field of a record. -/
structure Field (α : Type) where
  name : String
  codec : Codec α
  absent : Absent α
  /-- Values for which the field is not written. -/
  hides : α → Bool

namespace Field

variable {α : Type}

/-- A field that must be given. -/
def required (name : String) (codec : Codec α) : Field α := ⟨name, codec, .refused, fun _ => false⟩

/-- A field that may be missing. -/
def withDefault (name : String) (codec : Codec α) (x : α) : Field α :=
  ⟨name, codec, .default x, fun _ => false⟩

/-- A field whose value may be null, and that may be missing from an object. -/
def optional (name : String) (codec : Codec α) : Field (Option α) :=
  ⟨name, .optional codec, .omitted none, fun _ => false⟩

/-- A field whose value may be null, and that may be missing. -/
def optionalWithDefault (name : String) (codec : Codec α) : Field (Option α) :=
  ⟨name, .optional codec, .default none, fun _ => false⟩

/-- A field that may be missing and is not written if it is null. -/
def hiddenIfNull (name : String) (codec : Codec α) : Field (Option α) :=
  ⟨name, .optional codec, .default none, Option.isNone⟩

/-- The value of the field in an object, given what was read for it. -/
def complete (f : Field α) : Option α → Except Mismatch α
  | some x => .ok x
  | none => match f.absent with
    | .refused => .error (.missingField f.name)
    | .omitted x => .ok x
    | .default x => .ok x

end Field

/-- The fields of a record: `τ` is the type of their values, `σ` that of what has been read of them
so far. -/
inductive Fields : Type → Type → Type 1 where
  | nil : Fields Unit Unit
  | cons {α σ τ : Type} (field : Field α) (rest : Fields σ τ) : Fields (Option α × σ) (α × τ)

namespace Fields

/-- The number of fields. -/
def count {σ τ : Type} : Fields σ τ → Nat
  | nil => 0
  | cons _ rest => rest.count + 1

/-- Nothing has been read. -/
def vacant {σ τ : Type} : Fields σ τ → σ
  | nil => ()
  | cons _ rest => (none, rest.vacant)

/-- What is to be done with the member of a name. -/
inductive Slot (Outcome : Type) where
  /-- No field has the name. -/
  | unknown
  /-- The field has been read before. -/
  | taken
  /-- The field is read. -/
  | vacant (outcome : Outcome)

/-- Reads the field of a name from a text. -/
def readField {σ τ : Type} (depth : Nat) (name : String) :
    Fields σ τ → σ → Slot (List Char → Read (σ × List Char))
  | nil, _ => .unknown
  | cons field rest, (x?, slots) =>
    if field.name = name then
      match x? with
      | some _ => .taken
      | none => .vacant fun cs => do
        let (x, cs) ← field.codec.read depth cs
        return ((some x, slots), cs)
    else match readField depth name rest slots with
      | .unknown => .unknown
      | .taken => .taken
      | .vacant read => .vacant fun cs => do
        let (slots, cs) ← read cs
        return ((x?, slots), cs)

/-- Reads the field of a name from a value. -/
def fieldOfJson {σ τ : Type} (origin : Origin) (name : String) (v : Json) :
    Fields σ τ → σ → Slot (Except Mismatch σ)
  | nil, _ => .unknown
  | cons field rest, (x?, slots) =>
    if field.name = name then
      match x? with
      | some _ => .taken
      | none => .vacant do return (some (← field.codec.ofJson origin v), slots)
    else match fieldOfJson origin name v rest slots with
      | .unknown => .unknown
      | .taken => .taken
      | .vacant outcome => .vacant do return (x?, ← outcome)

/-- Reads the field of a name from a node. -/
def fieldOfYaml {σ τ : Type} (depth : Nat) (name : String) (node : Yaml.Node) :
    Fields σ τ → σ → Slot (Yaml.Decode σ)
  | nil, _ => .unknown
  | cons field rest, (x?, slots) =>
    if field.name = name then
      match x? with
      | some _ => .taken
      | none => .vacant do return (some (← field.codec.ofYaml depth node), slots)
    else match fieldOfYaml depth name node rest slots with
      | .unknown => .unknown
      | .taken => .taken
      | .vacant outcome => .vacant do return (x?, ← outcome)

/-- The values of all fields, given what was read of an object. The first missing one counts. -/
def complete {σ τ : Type} : Fields σ τ → σ → Except Mismatch τ
  | nil, _ => .ok ()
  | cons field rest, (x?, slots) => do
    let x ← field.complete x?
    return (x, ← rest.complete slots)

/-- Reads the members of an object. -/
def readMembers {σ τ : Type} (fields : Fields σ τ) (depth : Nat) :
    Nat → Bool → σ → List Char → Read (σ × List Char)
  | 0, _, _, _ => .error (.here [] .endOfObject)
  | turns + 1, first, slots, cs => do
    let (more, cs) ← nextKey first cs
    if more then
      let (name, cs) ← readString cs
      match fields.readField depth name slots with
      | .taken => .error (.whole cs (.duplicateField name))
      | .unknown => do
        let ((), cs) ← Read.within (.field name) (readColon cs)
        let ((), cs) ← Read.within (.field name) (skipValue cs)
        readMembers fields depth turns false slots cs
      | .vacant read => do
        let ((), cs) ← Read.within (.field name) (readColon cs)
        let (slots, cs) ← Read.within (.field name) (read cs)
        readMembers fields depth turns false slots cs
    else return (slots, cs)

/-- Reads an object, whose opening brace has been read. -/
def readObject {σ τ : Type} (fields : Fields σ τ) (depth : Nat) (cs : List Char) :
    Read (τ × List Char) :=
  finishObject do
    let (slots, cs) ← fields.readMembers depth (cs.length + 1) true fields.vacant cs
    match fields.complete slots with
    | .ok x => return (x, cs)
    | .error m => .error (.whole cs m)

/-- Reads the elements of an array, of which `index` have been read. -/
def readElements {σ τ : Type} (expected : String) (depth : Nat) :
    Fields σ τ → Nat → List Char → Read (τ × List Char)
  | nil, _, cs => .ok ((), cs)
  | cons field rest, index, cs => do
    let (more, cs) ← Read.within (.index index) (nextElement (index == 0) cs)
    let (x, cs) ←
      if more then Read.within (.index index) (field.codec.read depth cs)
      else match field.absent with
        | .default x => .ok (x, cs)
        | _ => .error (.whole cs (.length index expected))
    let (xs, cs) ← readElements expected depth rest (index + 1) cs
    return ((x, xs), cs)

/-- Reads the members of an object that is given as a value. -/
def membersOfJson {σ τ : Type} (fields : Fields σ τ) (origin : Origin) :
    σ → List (String × Json) → Except Mismatch σ
  | slots, [] => .ok slots
  | slots, (name, v) :: rest =>
    match fields.fieldOfJson origin name v slots with
    | .unknown => membersOfJson fields origin slots rest
    | .taken => .error (.duplicateField name)
    | .vacant outcome => do membersOfJson fields origin (← outcome) rest

/-- Reads the elements of an array that is given as a value, and gives those that are left. -/
def elementsOfJson {σ τ : Type} (expected : String) (origin : Origin) :
    Fields σ τ → Nat → List Json → Except Mismatch (τ × List Json)
  | nil, _, items => .ok ((), items)
  | cons field rest, index, v :: items => do
    let x ← field.codec.ofJson origin v
    let (xs, items) ← elementsOfJson expected origin rest (index + 1) items
    return ((x, xs), items)
  | cons field rest, index, [] => do
    let x ← match field.absent with
      | .default x => .ok x
      | _ => .error (.length index expected)
    let (xs, items) ← elementsOfJson expected origin rest (index + 1) []
    return ((x, xs), items)

/-- Reads the members of a mapping of a document. -/
def membersOfYaml {σ τ : Type} (fields : Fields σ τ) (depth : Nat) :
    σ → List (Yaml.Node × Yaml.Node) → Yaml.Decode σ
  | slots, [] => pure slots
  | slots, (key, node) :: rest => do
    let name ← Codec.string.ofYaml depth key
    match fields.fieldOfYaml depth name node slots with
    | .unknown => membersOfYaml fields depth slots rest
    | .taken => Yaml.Decode.fail
    | .vacant outcome => do membersOfYaml fields depth (← outcome) rest

/-- The values of the fields in an object's members. -/
def ofMembers {σ τ : Type} (fields : Fields σ τ) (origin : Origin)
    (members : List (String × Json)) : Except Mismatch τ := do
  fields.complete (← fields.membersOfJson origin fields.vacant members)

/-- What is expected of an array that has more elements than there are fields. -/
def expectedEnd (origin : Origin) (taken : Nat) : String :=
  match origin with
  | .given => "fewer elements in array"
  | .buffered =>
    if taken = 1 then "1 element in sequence" else s!"{taken} elements in sequence"

/-- The values of the fields in an array's elements. -/
def ofElements {σ τ : Type} (fields : Fields σ τ) (expected : String) (origin : Origin)
    (items : List Json) : Except Mismatch τ := do
  let (x, more) ← fields.elementsOfJson expected origin 0 items
  if more.isEmpty then return x
  else .error (.length items.length (expectedEnd origin (items.length - more.length)))

/-- The number of elements that an array of the fields has, in a message. -/
def countText {σ τ : Type} (fields : Fields σ τ) : String :=
  if fields.count = 1 then "1 element" else s!"{fields.count} elements"

/-- The members that are written, in the order of the fields. -/
def write {σ τ : Type} : Fields σ τ → τ → List (String × Json)
  | nil, _ => []
  | cons field rest, (x, xs) =>
    if field.hides x then rest.write xs else (field.name, field.codec.write x) :: rest.write xs

end Fields

/-- A record type: its fields, and how it is made of their values. -/
structure Record (σ τ α : Type) where
  name : String
  fields : Fields σ τ
  ofFields : τ → α
  toFields : α → τ

namespace Record

variable {σ τ α : Type}

/-- What is expected where a record is wanted. -/
def expected (r : Record σ τ α) : String := s!"struct {r.name}"

/-- What is expected of an array that is to be a record. -/
def expectedLength (r : Record σ τ α) : String := s!"struct {r.name} with {r.fields.countText}"

/-- The members that are written, in the order of the fields. -/
def members (r : Record σ τ α) (x : α) : List (String × Json) := r.fields.write (r.toFields x)

/-- The codec of a record. -/
def codec (r : Record σ τ α) : Codec α where
  read depth cs :=
    match depth, skipSpace cs with
    | _, [] => .error (.here [] .endOfValue)
    | 0, '{' :: rest => .error (.next ('{' :: rest) .tooDeep)
    | 0, '[' :: rest => .error (.next ('[' :: rest) .tooDeep)
    | depth + 1, '{' :: rest => do
      let (x, rest) ← r.fields.readObject depth rest
      return (r.ofFields x, rest)
    | depth + 1, '[' :: rest => do
      let (x, rest) ← finishArray (r.fields.readElements r.expectedLength depth 0 rest)
      return (r.ofFields x, rest)
    | _, rest => Codec.readLeaf (fun v => .error (.kind v.found r.expected)) rest
  ofJson origin v :=
    match v with
    | .object members => (r.fields.ofMembers origin members).map r.ofFields
    | .array items => (r.fields.ofElements r.expectedLength origin items).map r.ofFields
    | v => .error (.kind v.found r.expected)
  ofYaml depth node := do
    let slots ← match ← node.resolve, depth with
      | .mapping _ pairs, depth + 1 => r.fields.membersOfYaml depth r.fields.vacant pairs
      | .scalar _ .plain [], _ => pure r.fields.vacant
      | _, _ => Yaml.Decode.fail
    let x ← Yaml.Decode.ofOption (r.fields.complete slots).toOption
    return r.ofFields x
  write x := .object (r.members x)

end Record

end AgentFlow
