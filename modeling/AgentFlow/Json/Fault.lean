import AgentFlow.Json.Printer
import AgentFlow.Text.CharClass

/-!
# Faults of JSON texts and values

Why a text is no JSON, or a JSON value no record; where in the text, and on which way from the
outermost value, the fault was met; and the wording of all this.
-/

namespace AgentFlow.Json

open Number

/-- What was found in place of the value that a type asks for. -/
inductive Found where
  | null
  | bool (b : Bool)
  | int (n : Int)
  | float (x : Double)
  | string (s : String)
  | array
  | object
deriving Repr

/-- What a value is, in a fault. -/
def found : Json → Found
  | .null => .null
  | .bool b => .bool b
  | .int n => .int n
  | .float x => .float x
  | .string s => .string s
  | .array _ => .array
  | .object _ => .object

/-- The wording of what was found. -/
def Found.message : Found → String
  | null => "null"
  | bool true => "boolean `true`"
  | bool false => "boolean `false`"
  | int n => s!"integer `{String.ofList (intText n)}`"
  | float x => s!"floating point `{NumberLayout.data.text x}`"
  | string s => s!"string {Text.quoted s}"
  | array => "sequence"
  | object => "map"

/-- Why a well-formed value is not of the type asked for. -/
inductive Mismatch where
  /-- A value of another kind. -/
  | kind (found : Found) (expected : String)
  /-- A value of the right kind that the type does not have. -/
  | value (found : Found) (expected : String)
  /-- An array of another length. -/
  | length (n : Nat) (expected : String)
  /-- A name that is none of the known ones. -/
  | variant (name : String) (known : List String)
  | missingField (name : String)
  | duplicateField (name : String)
  /-- None of the forms of a type that has several. -/
  | alternatives (type : String)
  /-- A text that does not read as what it stands for. -/
  | unreadable (reason : String)
deriving Repr

/-- A name between backquotes. -/
def backquoted (name : String) : String := s!"`{name}`"

/-- The wording of a mismatch. -/
def Mismatch.message : Mismatch → String
  | kind found expected => s!"invalid type: {found.message}, expected {expected}"
  | value found expected => s!"invalid value: {found.message}, expected {expected}"
  | length n expected => s!"invalid length {n}, expected {expected}"
  | variant name known =>
    let names := ", ".intercalate (known.map backquoted)
    s!"unknown variant `{name}`, expected one of {names}"
  | missingField name => s!"missing field `{name}`"
  | duplicateField name => s!"duplicate field `{name}`"
  | alternatives type => s!"data did not match any variant of untagged enum {type}"
  | unreadable reason => reason

/-- Why a text could not be read. -/
inductive Cause where
  | endOfList
  | endOfObject
  | endOfString
  | endOfValue
  | expectedColon
  | expectedListEnd
  | expectedObjectEnd
  | expectedWord
  | expectedValue
  | invalidEscape
  | invalidNumber
  | numberOutOfRange
  | controlCharacter
  | keyNotString
  | loneSurrogate
  | trailingComma
  | trailingCharacters
  | endOfEscape
  | tooDeep
  /-- The text is well formed so far, but the value is not of the type asked for. -/
  | mismatch (m : Mismatch)
deriving Repr

namespace Cause

/-- The wording of a cause. -/
def message : Cause → String
  | endOfList => "EOF while parsing a list"
  | endOfObject => "EOF while parsing an object"
  | endOfString => "EOF while parsing a string"
  | endOfValue => "EOF while parsing a value"
  | expectedColon => "expected `:`"
  | expectedListEnd => "expected `,` or `]`"
  | expectedObjectEnd => "expected `,` or `\x7d`"
  | expectedWord => "expected ident"
  | expectedValue => "expected value"
  | invalidEscape => "invalid escape"
  | invalidNumber => "invalid number"
  | numberOutOfRange => "number out of range"
  | controlCharacter => "control character (\\u0000-\\u001F) found while parsing a string"
  | keyNotString => "key must be a string"
  | loneSurrogate => "lone leading surrogate in hex escape"
  | trailingComma => "trailing comma"
  | trailingCharacters => "trailing characters"
  | endOfEscape => "unexpected end of hex escape"
  | tooDeep => "recursion limit exceeded"
  | mismatch m => m.message

/-- The text is JSON so far, but not of the type asked for. -/
def isMismatch : Cause → Bool
  | mismatch _ => true
  | _ => false

end Cause

/-- One step on the way from the outermost value to a part of it. -/
inductive Segment where
  | field (name : String)
  | index (n : Nat)
  | variant (name : String)
deriving Repr

/-- Where a fault was met. -/
inductive Place where
  /-- In the text, where a number of bytes is left. -/
  | at (left : Nat)
  /-- In a value as a whole, which has been read; `rest` is left after it. -/
  | whole (rest : List Char)
deriving Repr

/-- A failed reading. -/
structure Fault where
  cause : Cause
  place : Place
  /-- The way to the part at fault, from the outermost value. -/
  path : List Segment
deriving Repr

namespace Fault

/-- A fault where the text `cs` is left. -/
def here (cs : List Char) (cause : Cause) : Fault := ⟨cause, .at (Text.byteLength cs), []⟩

/-- A fault one byte further, or at the end if nothing is left. -/
def next (cs : List Char) (cause : Cause) : Fault := ⟨cause, .at (Text.byteLength cs - 1), []⟩

/-- A mismatch of a value after which `rest` is left. -/
def whole (rest : List Char) (m : Mismatch) : Fault := ⟨.mismatch m, .whole rest, []⟩

/-- A fault of a part as a whole is one of the text where the value around the part ends, which is
looked for from the end of the part on. -/
def settle (ending : List Char → List Char) (f : Fault) : Fault :=
  match f.place with
  | .at _ => f
  | .whole rest => { f with place := .at (Text.byteLength (ending rest)) }

/-- The fault lies in a part of the value. -/
def within (s : Segment) (f : Fault) : Fault := { f with path := s :: f.path }

end Fault

/-- Lines and columns from one and zero on; columns count bytes. -/
structure Position where
  line : Nat
  column : Nat
deriving Repr

/-- The position after a number of bytes of a text, counted on from a position. -/
def Position.advance : List Char → Nat → Position → Position
  | [], _, p => p
  | _, 0, p => p
  | c :: rest, bytes, p =>
    if c = '\n' then advance rest (bytes - 1) ⟨p.line + 1, 0⟩
    else advance rest (bytes - c.utf8Size) ⟨p.line, p.column + min bytes c.utf8Size⟩

/-- The position of a fault in the text that was read. -/
def Fault.position? (text : List Char) (f : Fault) : Option Position :=
  match f.place with
  | .at left => some (Position.advance text (Text.byteLength text - left) ⟨1, 0⟩)
  | .whole _ => none

/-- The wording of a fault in a text, with its position. -/
def Fault.message (text : List Char) (f : Fault) : String :=
  match f.position? text with
  | some p => s!"{f.cause.message} at line {p.line} column {p.column}"
  | none => f.cause.message

/-- The steps to the part at fault: names after points, indices in brackets. -/
def pathText : List Segment → String
  | [] => ""
  | .index n :: rest => s!"[{n}]" ++ more rest
  | .field name :: rest => name ++ more rest
  | .variant name :: rest => name ++ more rest
where
  /-- Steps after the first one. -/
  more : List Segment → String
    | [] => ""
    | .index n :: rest => s!"[{n}]" ++ more rest
    | .field name :: rest => "." ++ name ++ more rest
    | .variant name :: rest => "." ++ name ++ more rest

/-- The wording of a fault after the way to the part at fault. -/
def Fault.messageWithPath (text : List Char) (f : Fault) : String :=
  if f.path.isEmpty then f.message text else s!"{pathText f.path}: {f.message text}"

end AgentFlow.Json
