import AgentFlow.Number.Decimal
import AgentFlow.Number.Integer

/-!
# YAML documents

The tree of a YAML document, in which a node may be referred to again by its anchor, and what plain
scalars mean: null, truth values, integers and floating-point numbers of the core schema.

References are followed only when their node is wanted, at most a bounded number of times in one
document, so that a small document cannot stand for an enormous value.
-/

namespace AgentFlow.Yaml

open Number

/-- How a scalar is written. -/
inductive Style where
  | plain
  | quoted
  /-- A block of lines whose breaks are kept. -/
  | literal
deriving DecidableEq, Repr

/-- A node of a document. Tags are resolved to their full form. -/
inductive Node where
  | scalar (tag : Option String) (style : Style) (text : List Char)
  | sequence (tag : Option String) (items : List Node)
  | mapping (tag : Option String) (pairs : List (Node × Node))
  /-- A reference to an anchor, by the anchor's number. -/
  | reference (anchor : Nat)
deriving Repr, Inhabited

/-- A document: its root, if it has one, the nodes under their anchors, and the number of
references that may be followed in it. -/
structure Document where
  root : Option Node
  anchors : List (Nat × Node)
  references : Nat
deriving Repr

/-- Interpreting a document: the anchors are known, and each reference that is followed is taken
from the number of those that may still be followed. -/
abbrev Decode (α : Type) := List (Nat × Node) → Nat → Option (α × Nat)

namespace Decode

instance : Monad Decode where
  pure x := fun _ budget => some (x, budget)
  bind m f := fun anchors budget => do
    let (x, budget) ← m anchors budget
    f x anchors budget

/-- The node has no meaning of the type wanted. -/
def fail {α : Type} : Decode α := fun _ _ => none

/-- A meaning that may be missing. -/
def ofOption {α : Type} : Option α → Decode α
  | some x => pure x
  | none => fail

end Decode

/-- The node itself, or the one that it refers to. -/
def Node.resolve : Node → Decode Node
  | .reference anchor => fun anchors budget =>
    match budget, anchors.lookup anchor with
    | budget + 1, some node => some (node, budget)
    | _, _ => none
  | node => pure node

/-- The tag of null. -/
def nullTag : String := "tag:yaml.org,2002:null"
/-- The tag of truth values. -/
def boolTag : String := "tag:yaml.org,2002:bool"
/-- The tag of integers. -/
def intTag : String := "tag:yaml.org,2002:int"
/-- The tag of floating-point numbers. -/
def floatTag : String := "tag:yaml.org,2002:float"

/-- The name in a tag of the document's own, which begins with an exclamation mark. -/
def localTag? (tag : Option String) : Option String := do
  match (← tag).toList with
  | '!' :: [] => some "!"
  | '!' :: name => some (String.ofList name)
  | _ => none

/-- The words for null. -/
def isNull (cs : List Char) : Bool :=
  ["null", "Null", "NULL", "~"].contains (String.ofList cs)

/-- The words for truth values. -/
def bool? (cs : List Char) : Option Bool :=
  let word := String.ofList cs
  if ["true", "True", "TRUE"].contains word then some true
  else if ["false", "False", "FALSE"].contains word then some false
  else none

/-- Digits after a zero, with or without a sign: such a text is no number. -/
def hasLeadingZero (cs : List Char) : Bool :=
  let digits := match cs with
    | '-' :: r => r
    | '+' :: r => r
    | r => r
  match digits with
  | '0' :: c :: r => (c :: r).all Char.isDigit
  | _ => false

/-- A text that begins with a sign. -/
def isSigned : List Char → Bool
  | '-' :: _ => true
  | '+' :: _ => true
  | _ => false

/-- The base that is announced after a zero, and the digits. -/
def based? : List Char → Option (Nat × List Char)
  | '0' :: 'x' :: digits => some (16, digits)
  | '0' :: 'o' :: digits => some (8, digits)
  | '0' :: 'b' :: digits => some (2, digits)
  | _ => none

/-- An integer of the range: decimal without leading zeros, or in base sixteen, eight or two. A plus
sign may stand before, a minus sign where the range has negative integers. -/
def int? (r : IntRange) (cs : List Char) : Option Int :=
  let magnitude := match cs with
    | '+' :: r => r
    | r => r
  let prefixed := match based? magnitude, cs with
    | some (base, digits), _ =>
      if isSigned digits then none else readIntBase? base r digits
    | none, '-' :: digits =>
      if r.least < 0 then
        (based? digits).bind fun (base, digits) => readIntBase? base r ('-' :: digits)
      else none
    | none, _ => none
  prefixed.or <|
    if hasLeadingZero cs || (isSigned cs && isSigned magnitude && cs.head? == some '+') then none
    else readIntBase? 10 r magnitude

/-- A floating-point number: decimal, or one of the words for infinity and for no number. -/
def float? (cs : List Char) : Option Double :=
  let magnitude := match cs with
    | '+' :: r => r
    | r => r
  let word := String.ofList cs
  if [".inf", ".Inf", ".INF"].contains (String.ofList magnitude) then some (.infinite false)
  else if ["-.inf", "-.Inf", "-.INF"].contains word then some (.infinite true)
  else if [".nan", ".NaN", ".NAN"].contains word then some .nan
  else if cs.head? == some '+' && isSigned magnitude then none
  else (Binary.read? magnitude).filter Binary.isFinite

end AgentFlow.Yaml
