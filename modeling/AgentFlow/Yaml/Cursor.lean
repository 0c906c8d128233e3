import AgentFlow.Text.CharClass

/-!
# Places in YAML texts

A cursor holds the text that is left and where it begins: how many bytes lie before it, and its line
and column, which counts characters. Line breaks are those of YAML: line feed, carriage return, both
as one, next line, and the line and paragraph separators.
-/

namespace AgentFlow.Yaml

/-- A space or a tab. -/
def isBlank (c : Char) : Bool := c == ' ' || c == '\t'

/-- A line break. -/
def isBreak (c : Char) : Bool :=
  c == '\r' || c == '\n' || c == '\u0085' || c == '\u2028' || c == '\u2029'

/-- A blank or a line break. -/
def isBlankOrBreak (c : Char) : Bool := isBlank c || isBreak c

/-- A character of names. -/
def isNameChar (c : Char) : Bool := c.isAlphanum || c == '_' || c == '-'

/-- The text begins with a blank or a line break, or is at its end. -/
def endsWord : List Char → Bool
  | [] => true
  | c :: _ => isBlankOrBreak c

/-- The text begins with one of some characters. -/
def startsWith (cs : List Char) (options : String) : Bool :=
  match cs with
  | [] => false
  | c :: _ => options.toList.contains c

/-- A place in a text. -/
structure Cursor where
  /-- The text that is left. -/
  rest : List Char
  /-- The number of bytes before. -/
  index : Nat
  line : Nat
  column : Nat

namespace Cursor

/-- The beginning of a text. -/
def start (cs : List Char) : Cursor := ⟨cs, 0, 0, 0⟩

/-- Passes over characters of the line. -/
def advance (n : Nat) (p : Cursor) : Cursor :=
  { p with
    rest := p.rest.drop n
    index := p.index + Text.byteLength (p.rest.take n)
    column := p.column + n }

/-- Passes over characters of the line for as long as they satisfy a condition. -/
def advanceWhile (test : Char → Bool) (p : Cursor) : Cursor :=
  p.advance (p.rest.takeWhile test).length

/-- Passes over a comment, which goes to the end of the line. -/
def skipComment (p : Cursor) : Cursor :=
  if p.rest.head? == some '#' then p.advanceWhile (!isBreak ·) else p

/-- Passes over a line break, if there is one, and gives the break that it stands for. -/
def readBreak (p : Cursor) : List Char × Cursor :=
  let next (n : Nat) : Cursor :=
    ⟨p.rest.drop n, p.index + Text.byteLength (p.rest.take n), p.line + 1, 0⟩
  match p.rest with
  | '\r' :: '\n' :: _ => (['\n'], next 2)
  | c :: _ =>
    if c = '\r' ∨ c = '\n' ∨ c = '\u0085' then (['\n'], next 1)
    else if c = '\u2028' ∨ c = '\u2029' then ([c], next 1)
    else ([], p)
  | [] => ([], p)

/-- The rest of a line: blanks, a comment, and the line break. -/
def finishLine? (p : Cursor) : Option Cursor :=
  let p := (p.advanceWhile isBlank).skipComment
  match p.rest with
  | [] => some p
  | c :: _ => if isBreak c then some p.readBreak.2 else none

/-- A line that begins with three characters and nothing else up to a blank: a document marker. -/
def atMarker (mark : Char) (p : Cursor) : Bool :=
  p.column == 0 && match p.rest with
  | a :: b :: c :: after => a == mark && b == mark && c == mark && endsWord after
  | _ => false

/-- A marker that begins or ends a document. -/
def atDocumentMarker (p : Cursor) : Bool := p.atMarker '-' || p.atMarker '.'

end Cursor

end AgentFlow.Yaml
