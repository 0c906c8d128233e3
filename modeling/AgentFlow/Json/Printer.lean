import AgentFlow.Json.Basic
import AgentFlow.Number.Decimal

/-!
# Texts of JSON values

The compact text, without any blanks, and the indented text, with one element or member a line.
-/

namespace AgentFlow.Json

open Number

/-- A digit of a base up to sixteen, in small letters. -/
def hexDigit (n : Nat) : Char := Nat.digitChar n

/-- One character inside a string: the quote, the backslash and the control characters are escaped,
all others stand for themselves. -/
def escapeChar (c : Char) : List Char :=
  match c with
  | '"' => ['\\', '"']
  | '\\' => ['\\', '\\']
  | '\x08' => ['\\', 'b']
  | '\t' => ['\\', 't']
  | '\n' => ['\\', 'n']
  | '\x0c' => ['\\', 'f']
  | '\r' => ['\\', 'r']
  | c =>
    if c.toNat < 0x20 then
      ['\\', 'u', '0', '0', hexDigit (c.toNat / 16), hexDigit (c.toNat % 16)]
    else [c]

/-- A string between quotes. -/
def stringText (s : String) : List Char := '"' :: s.toList.flatMap escapeChar ++ ['"']

/-- An integer in decimal. -/
def intText (n : Int) : List Char :=
  if n < 0 then '-' :: Nat.toDigits 10 n.natAbs else Nat.toDigits 10 n.natAbs

/-- A number that is not an integer; one that is not finite has no text of its own. -/
def floatText (x : Double) : List Char :=
  if x.isFinite then (NumberLayout.data.text x).toList else "null".toList

mutual

/-- The compact text of a value. -/
def compact : Json → List Char
  | null => "null".toList
  | bool true => "true".toList
  | bool false => "false".toList
  | int n => intText n
  | float x => floatText x
  | string s => stringText s
  | array items => '[' :: compactItems items
  | object members => '{' :: compactMembers members
termination_by structural v => v

/-- The elements of an array and the bracket that closes it. -/
def compactItems : List Json → List Char
  | [] => [']']
  | v :: rest => compact v ++ compactMoreItems rest
termination_by structural items => items

/-- Further elements, each after a comma. -/
def compactMoreItems : List Json → List Char
  | [] => [']']
  | v :: rest => ',' :: compact v ++ compactMoreItems rest
termination_by structural items => items

/-- The members of an object and the brace that closes it. -/
def compactMembers : List (String × Json) → List Char
  | [] => ['}']
  | (k, v) :: rest => stringText k ++ ':' :: compact v ++ compactMoreMembers rest
termination_by structural members => members

/-- Further members, each after a comma. -/
def compactMoreMembers : List (String × Json) → List Char
  | [] => ['}']
  | (k, v) :: rest => ',' :: stringText k ++ ':' :: compact v ++ compactMoreMembers rest
termination_by structural members => members

end

/-- The compact text of a value as a string. -/
def compactText (v : Json) : String := String.ofList v.compact

/-- A new line with two blanks for each level. -/
def newLine (level : Nat) : List Char := '\n' :: List.replicate (2 * level) ' '

mutual

/-- The indented text of a value at a level. An empty array or object stays on its line. -/
def indented (level : Nat) : Json → List Char
  | array [] => ['[', ']']
  | array (v :: rest) =>
    '[' :: newLine (level + 1) ++ indented (level + 1) v ++ indentedItems (level + 1) rest ++
      newLine level ++ [']']
  | object [] => ['{', '}']
  | object ((k, v) :: rest) =>
    '{' :: newLine (level + 1) ++ stringText k ++ ':' :: ' ' :: indented (level + 1) v ++
      indentedMembers (level + 1) rest ++ newLine level ++ ['}']
  | null => compact null
  | bool b => compact (bool b)
  | int n => compact (int n)
  | float x => compact (float x)
  | string s => compact (string s)
termination_by structural v => v

/-- Further elements, each on a line of its own. -/
def indentedItems (level : Nat) : List Json → List Char
  | [] => []
  | v :: rest => ',' :: newLine level ++ indented level v ++ indentedItems level rest
termination_by structural items => items

/-- Further members, each on a line of its own. -/
def indentedMembers (level : Nat) : List (String × Json) → List Char
  | [] => []
  | (k, v) :: rest =>
    ',' :: newLine level ++ stringText k ++ ':' :: ' ' :: indented level v ++
      indentedMembers level rest
termination_by structural members => members

end

/-- The indented text of a value as a string. -/
def indentedText (v : Json) : String := String.ofList (v.indented 0)

end AgentFlow.Json
