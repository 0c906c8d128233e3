import AgentFlow.Yaml.Token

/-!
# Composing YAML documents

The tokens of a text become the nodes of its only document. An anchor is numbered by how many names
there are when it is met, so that a name may be given to another node later on.
-/

namespace AgentFlow.Yaml

/-- The state while nodes are composed. -/
structure Composer where
  /-- The tokens that are left. -/
  tokens : List Token
  /-- What the handles of tags stand for. -/
  handles : List (List Char × List Char)
  /-- The numbers of the anchors by name. -/
  names : List (List Char × Nat)
  /-- The numbers of anchored nodes in the order in which they began, the latest first. -/
  begun : List Nat
  /-- The anchored nodes that are complete, by how many began before them. -/
  complete : List (Nat × Node)
  /-- How many scalars, references, and begins and ends of collections there have been. -/
  events : Nat

/-- Composing, which may fail. -/
abbrev Compose := StateT Composer Option

namespace Compose

/-- The next token. -/
def peek : Compose Token := do
  match (← get).tokens with
  | t :: _ => return t
  | [] => failure

/-- Passes over the next token. -/
def skip : Compose Unit := modify fun c => { c with tokens := c.tokens.tail }

/-- Counts an event. -/
def count : Compose Unit := modify fun c => { c with events := c.events + 1 }

/-- Passes over a token if it is the next one, and tells whether it is. -/
def skipIf (t : Token) : Compose Bool := do
  if (← peek) = t then skip; return true else return false

/-- A node that is left out. -/
def missing : Compose Node := do
  count
  return .scalar none .plain []

/-- An anchor gets its number where its node begins. -/
def beginNode (anchor : Option (List Char)) : Compose (Option Nat) := do
  match anchor with
  | none => return none
  | some name =>
    let c ← get
    let id := c.names.length
    set { c with
      names := (name, id) :: c.names.filter (·.1 ≠ name)
      begun := id :: c.begun }
    return some c.begun.length

/-- A node that is complete is kept under its anchor. -/
def endNode (serial : Option Nat) (node : Node) : Compose Node := do
  match serial with
  | none => return node
  | some serial => do
    modify fun c => { c with complete := (serial, node) :: c.complete }
    return node

/-- The tag in full. -/
def resolveTag (handle suffix : List Char) : Compose String := do
  if handle.isEmpty then return String.ofList suffix
  else match (← get).handles.lookup handle with
    | some stands => return String.ofList (stands ++ suffix)
    | none => failure

/-- The anchor and the tag before a node, in either order. -/
def properties : Compose (Option (List Char) × Option String) := do
  match ← peek with
  | .anchor name => do
    skip
    match ← peek with
    | .tag handle suffix => do
      skip
      return (some name, some (← resolveTag handle suffix))
    | _ => return (some name, none)
  | .tag handle suffix => do
    skip
    let tag ← resolveTag handle suffix
    match ← peek with
    | .anchor name => do
      skip
      return (some name, some tag)
    | _ => return (none, some tag)
  | _ => return (none, none)

/-- The comma before an element of a flow collection, unless it is the first one. -/
def separator (first : Bool) : Compose Unit := do
  if !first then
    if !(← skipIf .flowEntry) then failure

mutual

/-- A node. In a block it may be a block itself; as a key or value of one, its elements may stand at
the level of the keys. -/
def node (block indentless : Bool) : Nat → Compose Node
  | 0 => failure
  | turns + 1 => do
    if let .alias name ← peek then
      skip
      count
      match (← get).names.lookup name with
      | some id => return .reference id
      | none => failure
    else
      let (anchor, tag) ← properties
      let serial ← beginNode anchor
      let t ← peek
      count
      if indentless && t == .blockEntry then
        let items ← indentlessItems turns
        count
        endNode serial (.sequence tag items)
      else match t with
        | .scalar style text => do
          skip
          endNode serial (.scalar (tag.filter (· ≠ "!")) style text)
        | .flowSequenceStart => do
          skip
          let items ← flowItems true turns
          count
          endNode serial (.sequence tag items)
        | .flowMappingStart => do
          skip
          let pairs ← flowPairs true turns
          count
          endNode serial (.mapping tag pairs)
        | .blockSequenceStart => do
          if !block then failure
          skip
          let items ← blockItems turns
          count
          endNode serial (.sequence tag items)
        | .blockMappingStart => do
          if !block then failure
          skip
          let pairs ← blockPairs turns
          count
          endNode serial (.mapping tag pairs)
        | _ => do
          if anchor.isNone && tag.isNone then failure
          endNode serial (.scalar tag .plain [])

/-- A node, unless one of some tokens shows that it is left out. -/
def nodeUnless (ends : List Token) (block indentless : Bool) : Nat → Compose Node
  | 0 => failure
  | turns + 1 => do
    if ends.contains (← peek) then missing else node block indentless turns

/-- The elements of a block sequence and its end. -/
def blockItems : Nat → Compose (List Node)
  | 0 => failure
  | turns + 1 => do
    if ← skipIf .blockEntry then
      let item ← nodeUnless [.blockEntry, .blockEnd] true false turns
      return item :: (← blockItems turns)
    else if ← skipIf .blockEnd then return []
    else failure

/-- The elements of a block sequence that stands at the level of the keys around it. -/
def indentlessItems : Nat → Compose (List Node)
  | 0 => failure
  | turns + 1 => do
    if ← skipIf .blockEntry then
      let item ← nodeUnless [.blockEntry, .key, .value, .blockEnd] true false turns
      return item :: (← indentlessItems turns)
    else return []

/-- The keys and values of a block mapping and its end. -/
def blockPairs : Nat → Compose (List (Node × Node))
  | 0 => failure
  | turns + 1 => do
    if ← skipIf .key then
      let k ← nodeUnless [.key, .value, .blockEnd] true true turns
      let v ← blockValue turns
      return (k, v) :: (← blockPairs turns)
    else if ← skipIf .blockEnd then return []
    else failure

/-- The value after a key of a block mapping. -/
def blockValue : Nat → Compose Node
  | 0 => failure
  | turns + 1 => do
    if ← skipIf .value then nodeUnless [.key, .value, .blockEnd] true true turns else missing

/-- The elements of a flow sequence and its end. An element may be a key with its value. -/
def flowItems (first : Bool) : Nat → Compose (List Node)
  | 0 => failure
  | turns + 1 => do
    if ← skipIf .flowSequenceEnd then return []
    else
      separator first
      if ← skipIf .key then
        count
        let item ← flowPair turns
        count
        return item :: (← flowItems false turns)
      else if ← skipIf .flowSequenceEnd then return []
      else
        let item ← node false false turns
        return item :: (← flowItems false turns)

/-- A key with its value as an element of a flow sequence. Where the key is left out, the token that
shows it is passed over. -/
def flowPair : Nat → Compose Node
  | 0 => failure
  | turns + 1 => do
    let ends := [Token.value, .flowEntry, .flowSequenceEnd]
    let k ← if ends.contains (← peek) then do skip; missing else node false false turns
    let v ← if ← skipIf .value then nodeUnless [.flowEntry, .flowSequenceEnd] false false turns
      else missing
    return .mapping none [(k, v)]

/-- The keys and values of a flow mapping and its end. A key may stand without a value. -/
def flowPairs (first : Bool) : Nat → Compose (List (Node × Node))
  | 0 => failure
  | turns + 1 => do
    if ← skipIf .flowMappingEnd then return []
    else
      separator first
      if ← skipIf .key then
        let k ← nodeUnless [.value, .flowEntry, .flowMappingEnd] false false turns
        let v ← if ← skipIf .value then nodeUnless [.flowEntry, .flowMappingEnd] false false turns
          else missing
        return (k, v) :: (← flowPairs false turns)
      else if ← skipIf .flowMappingEnd then return []
      else
        let k ← node false false turns
        let v ← missing
        return (k, v) :: (← flowPairs false turns)

end

/-- The handles that need not be declared. -/
def defaultHandles : List (List Char × List Char) :=
  [(['!'], ['!']), (['!', '!'], "tag:yaml.org,2002:".toList)]

/-- The directives before a document: at most one version, which must be a known one, and handles,
each of which is declared once. -/
def directives (versioned : Bool) (handles : List (List Char × List Char)) :
    Nat → Compose (List (List Char × List Char))
  | 0 => failure
  | turns + 1 => do
    match ← peek with
    | .version major minor => do
      if versioned || major != 1 || (minor != 1 && minor != 2) then failure
      skip
      directives true handles turns
    | .tagHandle handle stands => do
      if (handles.lookup handle).isSome then failure
      skip
      directives versioned ((handle, stands) :: handles) turns
    | _ => return handles

/-- A token that does not belong to the content of a document. -/
def isBetweenDocuments : Token → Bool
  | .version _ _ => true
  | .tagHandle _ _ => true
  | .documentStart => true
  | .documentEnd => true
  | .streamEnd => true
  | _ => false

/-- Passes over the markers of a document's end. -/
def skipDocumentEnds : Nat → Compose Unit
  | 0 => failure
  | turns + 1 => do if ← skipIf .documentEnd then skipDocumentEnds turns

/-- The root of the only document, if there is one. -/
def root (turns : Nat) : Compose (Option Node) := do
  let t ← peek
  if t == .streamEnd then return none
  else
    let explicit := isBetweenDocuments t && t != .documentEnd
    if explicit then
      let handles ← directives false [] turns
      modify fun c => { c with handles := handles ++ c.handles }
      if !(← skipIf .documentStart) then failure
    let isLeftOut := explicit && isBetweenDocuments (← peek)
    let node ← if isLeftOut then missing else node true false turns
    skipDocumentEnds turns
    if (← peek) == .streamEnd then return some node else failure

end Compose

/-- The document that a text writes, unless the text is malformed or writes several. -/
def Document.read? (text : String) : Option Document := do
  let tokens ← tokens? text.toList
  let (root, c) ← (Compose.root (4 * tokens.length + 16)).run
    ⟨tokens, Compose.defaultHandles, [], [], [], 0⟩
  let serials := (List.range c.begun.length).reverse
  let anchors := (c.begun.zip serials).filterMap fun (id, serial) =>
    (c.complete.lookup serial).map fun node => (id, node)
  return ⟨root, anchors, 100 * c.events⟩

end AgentFlow.Yaml
