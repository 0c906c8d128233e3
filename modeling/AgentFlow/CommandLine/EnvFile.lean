import AgentFlow.SortedMap
import AgentFlow.Text.Blank
import AgentFlow.Text.CharClass
import AgentFlow.Text.Parts

/-!
# Files of variables

A file that gives values to variables of the environment, one a line. What the environment gives
already stays, and the first line that cannot be read ends the reading.
-/

namespace AgentFlow

/-- The variables of an environment. -/
abbrev Environment := SortedMap String String

/-- A variable as a process is given it: its name, an equals sign and its value. -/
def readVariable? (bytes : List UInt8) : Option (String × String) := do
  let cs := (← String.fromUTF8? (ByteArray.mk bytes.toArray)).toList
  match cs.dropWhile (· != '=') with
  | _ :: value => return (String.ofList (cs.takeWhile (· != '=')), String.ofList value)
  | [] => none

/-- The environment that a process is given: its variables, each ended by a zero byte. -/
def Environment.ofBytes (bytes : ByteArray) : Environment :=
  .ofList ((Text.parts 0 bytes.toList).filterMap readVariable?)

namespace EnvFile

/-- The value of a variable in a line; one that is not there is empty. -/
def valueOf (env : Environment) (name : List Char) : List Char :=
  ((env.get? (String.ofList name)).getD "").toList

/-- Where in a value the reading is. -/
inductive Place where
  /-- Outside of quotes, or between double ones. -/
  | plain (quoted : Bool)
  /-- Between apostrophes, where every character stands for itself. -/
  | literal
  /-- After a backslash. -/
  | escaped (quoted : Bool)
  /-- In the name of a variable after a dollar sign. -/
  | name (quoted : Bool) (read : List Char)
  /-- In the name of a variable between braces. -/
  | braced (quoted : Bool) (read : List Char)
  /-- After the value, where only blanks and a comment may follow. -/
  | ended

/-- What a value makes of a character, outside of quotes or between double ones: what it adds, and
where the reading goes on. -/
def plainChar (quoted : Bool) (c : Char) : List Char × Place :=
  if c = '$' then ([], .name quoted [])
  else if c = '\\' then ([], .escaped quoted)
  else if c = '"' then ([], .plain !quoted)
  else if quoted then ([c], .plain true)
  else if c = '\'' then ([], .literal)
  else if c = ' ' ∨ c = '\t' then ([], .ended)
  else ([c], .plain false)

/-- What a character after a backslash stands for. -/
def escapedChar? (c : Char) : Option Char :=
  if c ∈ ['\\', '\'', '"', '$', ' '] then some c else if c = 'n' then some '\n' else none

/-- What a value makes of a character after the letters and digits of a name. One that does not
begin another name, or put this one between braces, stands for itself, a closing quote too. -/
def afterName (env : Environment) (quoted : Bool) (name : List Char) (c : Char) :
    List Char × Place :=
  if c = '\x7b' ∧ name = [] then ([], .braced quoted [])
  else if c = '$' then (valueOf env name, .name quoted [])
  else (valueOf env name ++ [c], .plain quoted)

/-- Reads a value from a place on. Quotes and braces have to be closed. -/
def readValue (env : Environment) : Place → List Char → Option (List Char)
  | .plain false, [] | .escaped false, [] | .ended, [] => some []
  | .name false read, [] => some (valueOf env read)
  | _, [] => none
  | .plain quoted, c :: rest =>
    let (added, place) := plainChar quoted c
    (readValue env place rest).map (added ++ ·)
  | .literal, c :: rest =>
    if c = '\'' then readValue env (.plain false) rest
    else (readValue env .literal rest).map (c :: ·)
  | .escaped quoted, c :: rest =>
    (escapedChar? c).bind fun c => (readValue env (.plain quoted) rest).map (c :: ·)
  | .name quoted read, c :: rest =>
    if Text.CharClass.alphanumeric.contains c then readValue env (.name quoted (read ++ [c])) rest
    else
      let (added, place) := afterName env quoted read c
      (readValue env place rest).map (added ++ ·)
  | .braced quoted read, c :: rest =>
    if c = '\x7d' then (readValue env (.plain quoted) rest).map (valueOf env read ++ ·)
    else readValue env (.braced quoted (read ++ [c])) rest
  | .ended, c :: rest =>
    if c = '#' then some []
    else if c = ' ' ∨ c = '\t' then readValue env .ended rest
    else none

/-- A character of a name. -/
def isNameChar (c : Char) : Bool := c.isAlphanum || c == '_' || c == '.'

/-- The name of a variable at the front, and what follows it and blanks. -/
def readName? (cs : List Char) : Option (List Char × List Char) :=
  match cs with
  | c :: _ =>
    if c.isAlpha || c == '_' then
      some (cs.takeWhile isNameChar, Text.trimStart (cs.dropWhile isNameChar))
    else none
  | [] => none

/-- What a line gives: nothing if it is empty or a comment, else a variable and its value. The word
`export` may stand before the name. -/
def readLine? (env : Environment) (line : List Char) : Option (Option (String × String)) := do
  let cs := Text.trim line
  if cs.isEmpty || cs.head? == some '#' then return none
  let (name, rest) ← readName? cs
  let (name, rest) ←
    if name = "export".toList ∧ rest.head? ≠ some '=' then readName? rest else some (name, rest)
  match rest with
  | '=' :: rest =>
    let rest := Text.trimStart rest
    if rest.isEmpty || rest.head? == some '#' then return some (String.ofList name, "")
    let value ← readValue env (.plain false) rest
    return some (String.ofList name, String.ofList value)
  | _ => none

/-- The environment with what the lines give. -/
def extendWith (env : Environment) : List (List UInt8) → Environment
  | [] => env
  | line :: rest =>
    match (String.fromUTF8? (ByteArray.mk line.toArray)).bind (readLine? env ·.toList) with
    | none => env
    | some none => extendWith env rest
    | some (some (name, value)) =>
      extendWith (if (env.get? name).isSome then env else env.insert name value) rest

/-- The environment with what the bytes of a file give. -/
def extend (env : Environment) (file : ByteArray) : Environment :=
  extendWith env (Text.parts 0x0A file.toList)

end EnvFile

end AgentFlow
