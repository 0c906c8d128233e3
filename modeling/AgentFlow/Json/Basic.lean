import AgentFlow.Number.Binary
import AgentFlow.SortedMap

/-!
# JSON values

The values that records, task lists and messages are exchanged in. An object is the list of its
members in written order, so that a key may come twice; the canonical form of a value lists the
members of each object by increasing key, the last of equal keys having won.
-/

namespace AgentFlow

open Number

/-- A JSON value. Numbers written without a point or exponent are integers and stay exact. -/
inductive Json where
  | null
  | bool (b : Bool)
  | int (n : Int)
  | float (x : Double)
  | string (s : String)
  | array (items : List Json)
  | object (members : List (String × Json))
deriving Repr, Inhabited

namespace Json

mutual

/-- The members of each object by increasing key; of equal keys the last one counts. -/
def canonical : Json → Json
  | array items => array (canonicalItems items)
  | object members => object (canonicalMembers [] members)
  | null => null
  | bool b => bool b
  | int n => int n
  | float x => float x
  | string s => string s
termination_by structural v => v

/-- Canonical elements of an array. -/
def canonicalItems : List Json → List Json
  | [] => []
  | v :: rest => canonical v :: canonicalItems rest
termination_by structural items => items

/-- Inserts the members, made canonical, into those inserted before. -/
def canonicalMembers (done : List (String × Json)) : List (String × Json) → List (String × Json)
  | [] => done
  | (k, v) :: rest => canonicalMembers (insertEntry k (canonical v) done) rest
termination_by structural members => members

end

mutual

/-- Every object lists its members by strictly increasing key. -/
def Canonical : Json → Prop
  | array items => CanonicalItems items
  | object members => KeysIncrease members ∧ CanonicalMembers members
  | _ => True
termination_by structural v => v

/-- Every element is canonical. -/
def CanonicalItems : List Json → Prop
  | [] => True
  | v :: rest => Canonical v ∧ CanonicalItems rest
termination_by structural items => items

/-- Every member's value is canonical. -/
def CanonicalMembers : List (String × Json) → Prop
  | [] => True
  | (_, v) :: rest => Canonical v ∧ CanonicalMembers rest
termination_by structural members => members

end

mutual

/-- How deep arrays and objects nest in a value. -/
def nesting : Json → Nat
  | array items => nestingItems items + 1
  | object members => nestingMembers members + 1
  | _ => 0
termination_by structural v => v

/-- The deepest nesting of an element. -/
def nestingItems : List Json → Nat
  | [] => 0
  | v :: rest => max (nesting v) (nestingItems rest)
termination_by structural items => items

/-- The deepest nesting of a member's value. -/
def nestingMembers : List (String × Json) → Nat
  | [] => 0
  | (_, v) :: rest => max (nesting v) (nestingMembers rest)
termination_by structural members => members

end

/-- The member of an object with the given key; nothing for any other value. -/
def member? (k : String) : Json → Option Json
  | object members => lookupEntry k members
  | _ => none

/-- The text of a string value. -/
def text? : Json → Option String
  | string s => some s
  | _ => none

/-- The elements of an array. -/
def items? : Json → Option (List Json)
  | array items => some items
  | _ => none

/-- Only a string has a text. -/
theorem text?_eq_some_iff {v : Json} {s : String} : v.text? = some s ↔ v = .string s := by
  cases v <;> simp [text?]

/-- Only an array has elements. -/
theorem items?_eq_some_iff {v : Json} {items : List Json} :
    v.items? = some items ↔ v = .array items := by
  cases v <;> simp [items?]

/-- Only an object has members. -/
theorem member?_eq_some_iff {v w : Json} {k : String} :
    v.member? k = some w ↔ ∃ members, v = .object members ∧ lookupEntry k members = some w := by
  cases v <;> simp [member?]

/-- An object of members given in any order. -/
def ofMembers (members : List (String × Json)) : Json :=
  object (SortedMap.ofList members).entries

/-- A value that may be absent, absence being null. -/
def ofOption {α : Type} (write : α → Json) : Option α → Json
  | some x => write x
  | none => null

end Json

end AgentFlow
