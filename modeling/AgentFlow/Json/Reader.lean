import AgentFlow.Json.Token

/-!
# Reading JSON texts

Arrays and objects with any reader for their parts, free values, and whole texts. Free values nest
at most 127 deep.
-/

namespace AgentFlow.Json

/-- How many arrays and objects may be open at once. -/
def maxNesting : Nat := 127

/-- Faults of this reading lie in a part of the value. -/
def Read.within {α : Type} (s : Segment) (r : Read α) : Read α := r.mapError (·.within s)

/-- The elements of an array up to its closing bracket. Each turn reads one, so as many turns as
there are characters suffice. -/
def readElements {α : Type} (one : List Char → Read (α × List Char)) :
    (turns index : Nat) → List Char → Read (List α × List Char)
  | 0, _, _ => .error (.here [] .endOfList)
  | turns + 1, index, cs => do
    let (more, cs) ← Read.within (.index index) (nextElement (index == 0) cs)
    if more then
      let (x, cs) ← Read.within (.index index) (one cs)
      let (xs, cs) ← readElements one turns (index + 1) cs
      return (x :: xs, cs)
    else return ([], cs)

/-- A key with the colon after it. -/
def readKey (cs : List Char) : Read (String × List Char) := do
  let (k, cs) ← readString cs
  let ((), cs) ← Read.within (.field k) (readColon cs)
  return (k, cs)

/-- The members of an object up to its closing brace. -/
def readMembers {α : Type} (one : List Char → Read (α × List Char)) :
    Nat → Bool → List Char → Read (List (String × α) × List Char)
  | 0, _, _ => .error (.here [] .endOfObject)
  | turns + 1, first, cs => do
    let (more, cs) ← nextKey first cs
    if more then
      let (k, cs) ← readKey cs
      let (x, cs) ← Read.within (.field k) (one cs)
      let (xs, cs) ← readMembers one turns false cs
      return ((k, x) :: xs, cs)
    else return ([], cs)

/-- Ends an array whose inside has been read. -/
def finishArray {α : Type} : Read (α × List Char) → Read (α × List Char)
  | .ok (x, cs) => match closeArray cs with
    | (none, rest) => .ok (x, rest)
    | (some f, _) => .error f
  | .error f => .error (f.settle fun rest => (closeArray rest).2)

/-- Ends an object whose inside has been read. -/
def finishObject {α : Type} : Read (α × List Char) → Read (α × List Char)
  | .ok (x, cs) => match closeObject cs with
    | (none, rest) => .ok (x, rest)
    | (some f, _) => .error f
  | .error f => .error (f.settle fun rest => (closeObject rest).2)

/-- An array, whose opening bracket has been read. -/
def readArray {α : Type} (one : List Char → Read (α × List Char)) (cs : List Char) :
    Read (List α × List Char) :=
  finishArray (readElements one (cs.length + 1) 0 cs)

/-- An object, whose opening brace has been read. -/
def readObject {α : Type} (one : List Char → Read (α × List Char)) (cs : List Char) :
    Read (List (String × α) × List Char) :=
  finishObject (readMembers one (cs.length + 1) true cs)

/-- A value that is no array or object, given its first character and what follows. -/
def readScalar (c : Char) (cs : List Char) : Read (Json × List Char) :=
  if c = 'n' then do
    let ((), cs) ← readWord "ull".toList cs
    return (null, cs)
  else if c = 't' then do
    let ((), cs) ← readWord "rue".toList cs
    return (bool true, cs)
  else if c = 'f' then do
    let ((), cs) ← readWord "alse".toList cs
    return (bool false, cs)
  else if c = '"' then do
    let (s, cs) ← readString cs
    return (string s, cs)
  else if c = '-' then readNumber true cs
  else if c.isDigit then readNumber false (c :: cs)
  else .error (.next (c :: cs) .expectedValue)

/-- A free value, of which at most `depth` arrays and objects are open at once. Members stay in the
order they are written in. -/
def readValue : Nat → List Char → Read (Json × List Char)
  | 0, cs =>
    match skipSpace cs with
    | [] => .error (.here [] .endOfValue)
    | c :: r =>
      if c = '[' ∨ c = '{' then .error (.next (c :: r) .tooDeep) else readScalar c r
  | depth + 1, cs =>
    match skipSpace cs with
    | [] => .error (.here [] .endOfValue)
    | c :: r =>
      if c = '[' then do
        let (items, cs) ← readArray (readValue depth) r
        return (array items, cs)
      else if c = '{' then do
        let (members, cs) ← readObject (readValue depth) r
        return (object members, cs)
      else readScalar c r

/-- A free value in canonical form. -/
def readCanonical (depth : Nat) (cs : List Char) : Read (Json × List Char) := do
  let (v, rest) ← readValue depth cs
  return (v.canonical, rest)

/-- A whole text: nothing but blanks may follow the value. -/
def readWhole {α : Type} (one : List Char → Read (α × List Char)) (text : List Char) : Read α := do
  let (x, rest) ← one text
  match skipSpace rest with
  | [] => return x
  | r => .error (.next r .trailingCharacters)

/-- The value that a text writes, in canonical form. -/
def parse (text : String) : Read Json := readWhole (readCanonical maxNesting) text.toList

end AgentFlow.Json
