import AgentFlow.Json.Token

/-!
# Skipping JSON values

Members that a record does not know are passed over. What is passed over must have the shape of
JSON, but its numbers, escapes and nesting need not be representable: the grammar is a looser one,
and the arrays and objects that are open are kept on a stack.
-/

namespace AgentFlow.Json

/-- What is open around a value that is passed over. -/
inductive Frame where
  | list
  | object

/-- Passes over the rest of a string. -/
def skipChars : Nat → List Char → Read (Unit × List Char)
  | 0, _ => .error (.here [] .endOfString)
  | _ + 1, [] => .error (.here [] .endOfString)
  | turns + 1, c :: cs =>
    if c = '"' then .ok ((), cs)
    else if c = '\\' then
      match cs with
      | [] => .error (.here [] .endOfString)
      | 'u' :: r => do
        let (_, rest) ← readHex4 r
        skipChars turns rest
      | d :: r =>
        if "\"\\/bfnrt".toList.contains d then skipChars turns r
        else .error (.next (d :: r) .invalidEscape)
    else if c.toNat < 0x20 then .error (.here (c :: cs) .controlCharacter)
    else skipChars turns cs

/-- Passes over an exponent, if one follows. -/
def skipExponent (cs : List Char) : Read (Unit × List Char) :=
  match cs with
  | c :: r =>
    if c = 'e' ∨ c = 'E' then
      let r := match r with
        | '+' :: r => r
        | '-' :: r => r
        | r => r
      if (r.takeWhile Char.isDigit).isEmpty then .error (.next r .invalidNumber)
      else .ok ((), r.dropWhile Char.isDigit)
    else .ok ((), c :: r)
  | [] => .ok ((), [])

/-- Passes over a number after its sign. -/
def skipNumber (cs : List Char) : Read (Unit × List Char) :=
  match cs.takeWhile Char.isDigit with
  | [] => .error (.next cs .invalidNumber)
  | '0' :: _ :: _ => .error (.next (cs.drop 1) .invalidNumber)
  | _ =>
    match cs.dropWhile Char.isDigit with
    | '.' :: r =>
      if (r.takeWhile Char.isDigit).isEmpty then .error (.next r .invalidNumber)
      else skipExponent (r.dropWhile Char.isDigit)
    | r => skipExponent r

/-- Passes over a value without parts, or over the bracket that opens one with parts. Tells what is
open then, and whether a comma may follow. -/
def skipFront (open_ : List Frame) (cs : List Char) :
    Read ((List Frame × Bool) × List Char) :=
  match skipSpace cs with
  | [] => .error (.here [] .endOfValue)
  | c :: r =>
    let word (w : String) := do
      let ((), rest) ← readWord w.toList r
      return ((open_, true), rest)
    let number (cs : List Char) := do
      let ((), rest) ← skipNumber cs
      return ((open_, true), rest)
    if c = 'n' then word "ull"
    else if c = 't' then word "rue"
    else if c = 'f' then word "alse"
    else if c = '-' then number r
    else if c.isDigit then number (c :: r)
    else if c = '"' then do
      let ((), rest) ← skipChars r.length r
      return ((open_, true), rest)
    else if c = '[' then .ok ((.list :: open_, false), r)
    else if c = '{' then .ok ((.object :: open_, false), r)
    else .error (.next (c :: r) .expectedValue)

/-- Passes over closing brackets and a comma up to the next part. Tells what is open then; nothing
is open once the value has ended. -/
def skipEnds : List Frame → Bool → List Char → Read (List Frame × List Char)
  | [], _, cs => .ok ([], cs)
  | frame :: outer, comma, cs =>
    match frame, skipSpace cs with
    | .list, [] => .error (.here [] .endOfList)
    | .object, [] => .error (.here [] .endOfObject)
    | .list, ']' :: r => skipEnds outer true r
    | .object, '}' :: r => skipEnds outer true r
    | frame, c :: r =>
      if !comma then .ok (frame :: outer, c :: r)
      else if c = ',' then .ok (frame :: outer, r)
      else .error (.next (c :: r) (match frame with
        | .list => .expectedListEnd
        | .object => .expectedObjectEnd))

/-- Passes over the key and the colon of a member. -/
def skipKey (cs : List Char) : Read (Unit × List Char) :=
  match skipSpace cs with
  | [] => .error (.here [] .endOfObject)
  | '"' :: r => do
    let ((), rest) ← skipChars r.length r
    readColon rest
  | r => .error (.next r .keyNotString)

/-- Passes over the parts that are left. Each turn passes over one. -/
def skipParts : Nat → List Frame → List Char → Read (Unit × List Char)
  | 0, _, _ => .error (.here [] .endOfValue)
  | turns + 1, open_, cs => do
    let ((open_, comma), cs) ← skipFront open_ cs
    let (open_, cs) ← skipEnds open_ comma cs
    match open_ with
    | [] => return ((), cs)
    | .list :: _ => skipParts turns open_ cs
    | .object :: _ => do
      let ((), cs) ← skipKey cs
      skipParts turns open_ cs

/-- Passes over a value. -/
def skipValue (cs : List Char) : Read (Unit × List Char) := skipParts (cs.length + 1) [] cs

end AgentFlow.Json
