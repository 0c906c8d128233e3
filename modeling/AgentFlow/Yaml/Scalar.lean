import AgentFlow.Number.Integer
import AgentFlow.Yaml.Cursor

/-!
# Scalars of YAML texts

Plain and quoted scalars, in which line breaks are folded, and block scalars, whose lines are kept
or folded. Each reader begins at the first character of the scalar and ends behind the last one.
-/

namespace AgentFlow.Yaml

open Number

/-- Blanks and line breaks inside a scalar. -/
structure Gap where
  /-- The blanks, if there is no line break. -/
  spaces : List Char
  /-- Whether there is a line break. -/
  broken : Bool
  /-- The first line break. -/
  lead : List Char
  /-- The line breaks after the first one. -/
  more : List Char

namespace Gap

/-- Nothing between two characters. -/
def none : Gap := ⟨[], false, [], []⟩

/-- What a gap stands for: a single line break is a space, further ones stand for themselves. -/
def text (g : Gap) : List Char :=
  if !g.broken then g.spaces
  else if g.lead = ['\n'] then if g.more.isEmpty then [' '] else g.more
  else g.lead ++ g.more

/-- Reads blanks and line breaks on from what was read of a gap. A tab in the indentation, left of
the given column, is refused. -/
def read (indent : Int) : Nat → Gap → Cursor → Option (Gap × Cursor)
  | 0, g, p => some (g, p)
  | turns + 1, g, p =>
    match p.rest with
    | [] => some (g, p)
    | c :: _ =>
      if isBlank c then
        if !g.broken then read indent turns { g with spaces := g.spaces ++ [c] } (p.advance 1)
        else if c = '\t' ∧ p.column < indent then Option.none
        else read indent turns g (p.advance 1)
      else if isBreak c then
        let (b, p) := p.readBreak
        if g.broken then read indent turns { g with more := g.more ++ b } p
        else read indent turns ⟨[], true, b, []⟩ p
      else some (g, p)

end Gap

/-! ### Plain scalars -/

/-- Characters of a plain scalar up to a blank or to what ends the scalar. Inside brackets a colon
must not be followed by punctuation. -/
def plainRun (flow : Bool) : List Char → Option (List Char × List Char)
  | [] => some ([], [])
  | c :: rest =>
    if isBlankOrBreak c then some ([], c :: rest)
    else if c = ':' ∧ flow ∧ startsWith rest ",?[]\x7b\x7d" then none
    else if (c = ':' ∧ endsWord rest) ∨ (flow ∧ ",[]\x7b\x7d".toList.contains c) then
      some ([], c :: rest)
    else do
      let (run, rest) ← plainRun flow rest
      return (c :: run, rest)

/-- Reads a plain scalar on from the text read so far and the gap after it. Tells whether a line
break follows the scalar. -/
def readPlain (flow : Bool) (indent : Int) :
    Nat → List Char → Gap → Cursor → Option ((List Char × Bool) × Cursor)
  | 0, text, gap, p => some ((text, gap.broken), p)
  | turns + 1, text, gap, p =>
    if p.atDocumentMarker || p.rest.head? == some '#' then some ((text, gap.broken), p)
    else do
      let (run, rest) ← plainRun flow p.rest
      let p := p.advance run.length
      let (text, gap) := if run.isEmpty then (text, gap) else (text ++ gap.text ++ run, .none)
      if rest.isEmpty || !endsWord rest then some ((text, gap.broken), p)
      else
        let (gap, p) ← gap.read indent p.rest.length p
        if !flow && p.column < indent then some ((text, gap.broken), p)
        else readPlain flow indent turns text gap p

/-! ### Quoted scalars -/

/-- What an escape of one character stands for. -/
def simpleEscape? (c : Char) : Option Char :=
  [('0', '\x00'), ('a', '\x07'), ('b', '\x08'), ('t', '\t'), ('\t', '\t'), ('n', '\n'),
    ('v', '\x0b'), ('f', '\x0c'), ('r', '\r'), ('e', '\x1b'), (' ', ' '), ('"', '"'), ('/', '/'),
    ('\\', '\\'), ('N', '\u0085'), ('_', '\u00a0'), ('L', '\u2028'), ('P', '\u2029')].lookup c

/-- How many digits the number of an escaped character has. -/
def escapeWidth? (c : Char) : Option Nat := [('x', 2), ('u', 4), ('U', 8)].lookup c

/-- The character of an escape, whose backslash has been read, and how many characters it takes. -/
def readEscape? : List Char → Option (Char × Nat)
  | [] => none
  | c :: rest =>
    match simpleEscape? c, escapeWidth? c with
    | some d, _ => some (d, 1)
    | none, some width => do
      let digits := rest.take width
      if digits.length < width then none
      let n ← readNat? 16 digits
      if (0xD800 ≤ n ∧ n ≤ 0xDFFF) ∨ 0x10FFFF < n then none
      return (Char.ofNat n, width + 1)
    | none, none => none

/-- Characters of a quoted scalar up to a blank, the closing quote or an escaped line break, which
is passed over and told. -/
def quotedRun (quote : Char) : Nat → Cursor → Option ((List Char × Bool) × Cursor)
  | 0, p => some (([], false), p)
  | turns + 1, p =>
    match p.rest with
    | [] => some (([], false), p)
    | c :: rest =>
      if isBlankOrBreak c then some (([], false), p)
      else if quote = '\'' ∧ c = '\'' ∧ rest.head? = some '\'' then do
        let ((run, broken), p) ← quotedRun quote turns (p.advance 2)
        return (('\'' :: run, broken), p)
      else if c = quote then some (([], false), p)
      else if quote = '"' ∧ c = '\\' then
        if rest.head?.any isBreak then some (([], true), (p.advance 1).readBreak.2)
        else do
          let (d, width) ← readEscape? rest
          let ((run, broken), p) ← quotedRun quote turns (p.advance (width + 1))
          return ((d :: run, broken), p)
      else do
        let ((run, broken), p) ← quotedRun quote turns (p.advance 1)
        return ((c :: run, broken), p)

/-- Reads a quoted scalar, whose opening quote has been read, on from the text read so far. -/
def readQuoted (quote : Char) : Nat → List Char → Cursor → Option (List Char × Cursor)
  | 0, _, _ => none
  | turns + 1, text, p =>
    if p.atDocumentMarker || p.rest.isEmpty then none
    else do
      let ((run, broken), p) ← quotedRun quote p.rest.length p
      let text := text ++ run
      if p.rest.head? == some quote then some (text, p.advance 1)
      else
        let (gap, p) ← Gap.read 0 p.rest.length ⟨[], broken, [], []⟩ p
        readQuoted quote turns (text ++ gap.text) p

/-! ### Block scalars -/

/-- What becomes of the line breaks at the end of a block scalar. -/
inductive Chomping where
  | strip
  | clip
  | keep
deriving DecidableEq

/-- The chomping that an indicator asks for. -/
def chomping? : List Char → Option Chomping
  | '+' :: _ => some .keep
  | '-' :: _ => some .strip
  | _ => none

/-- The indicators of a block scalar, in either order: chomping and indentation. -/
def readHeader (p : Cursor) : Option ((Chomping × Option Nat) × Cursor) :=
  let width? (p : Cursor) : Option (Option Nat × Cursor) :=
    match p.rest with
    | c :: _ =>
      if c.isDigit then
        if c = '0' then none else some (some (c.toNat - '0'.toNat), p.advance 1)
      else some (none, p)
    | [] => some (none, p)
  match chomping? p.rest with
  | some chomping => do
    let (width, p) ← width? (p.advance 1)
    return ((chomping, width), p)
  | none => do
    let (width, p) ← width? p
    match width, chomping? p.rest with
    | some _, some chomping => return ((chomping, width), p.advance 1)
    | _, _ => return ((.clip, width), p)

/-- Reads indentation and empty lines. Where the indentation is not yet known, all spaces belong to
it; the widest is told. A tab in the indentation is refused. -/
def readEmptyLines (indent : Option Nat) :
    Nat → Nat → List Char → Cursor → Option ((Nat × List Char) × Cursor)
  | 0, widest, breaks, p => some ((widest, breaks), p)
  | turns + 1, widest, breaks, p =>
    let within (column : Nat) : Bool := indent.all (column < ·)
    let spaces := p.rest.takeWhile (· == ' ')
    let width := match indent with
      | some n => min spaces.length (n - p.column)
      | none => spaces.length
    let p := p.advance width
    let widest := max widest p.column
    if within p.column && p.rest.head? == some '\t' then none
    else if p.rest.head?.any isBreak then
      let (b, p) := p.readBreak
      readEmptyLines indent turns widest (breaks ++ b) p
    else some ((widest, breaks), p)

/-- The text of a block scalar while it is read. -/
structure Block where
  text : List Char
  /-- The break after the latest line. -/
  lead : List Char
  /-- The breaks of the empty lines after it. -/
  more : List Char
  /-- Whether the latest line begins with a blank. -/
  indented : Bool

/-- The text with the line breaks before the next line. Where lines are folded, a single break
between two lines that begin with no blank becomes a space. -/
def Block.joined (literal nextIndented : Bool) (b : Block) : List Char :=
  if !literal && b.lead == ['\n'] && !b.indented && !nextIndented then
    b.text ++ (if b.more.isEmpty then [' '] else []) ++ b.more
  else b.text ++ b.lead ++ b.more

/-- Reads the lines of a block scalar that are indented as it is. -/
def readLines (literal : Bool) (indent : Nat) : Nat → Block → Cursor → Option (Block × Cursor)
  | 0, b, p => some (b, p)
  | turns + 1, b, p =>
    if p.column = indent ∧ !p.rest.isEmpty then do
      let indented := p.rest.head?.any isBlank
      let line := p.rest.takeWhile (!isBreak ·)
      let (lead, p) := (p.advance line.length).readBreak
      let text := b.joined literal indented ++ line
      let ((_, more), p) ← readEmptyLines (some indent) (p.rest.length + 1) 0 [] p
      readLines literal indent turns ⟨text, lead, more, indented⟩ p
    else some (b, p)

/-- Reads a block scalar, whose indicator has been read, inside a block that is indented by `outer`.
-/
def readBlock (literal : Bool) (outer : Int) (p : Cursor) : Option (List Char × Cursor) := do
  let ((chomping, width), p) ← readHeader p
  let p ← p.finishLine?
  let given := width.map fun n => (if 0 ≤ outer then outer.toNat + n else n)
  let ((widest, breaks), p) ← readEmptyLines given (p.rest.length + 1) 0 [] p
  let indent := given.getD (max (max widest (outer + 1).toNat) 1)
  let (b, p) ← readLines literal indent (p.rest.length + 1) ⟨[], [], breaks, false⟩ p
  let ending := match chomping with
    | .strip => []
    | .clip => b.lead
    | .keep => b.lead ++ b.more
  return (b.text ++ ending, p)

end AgentFlow.Yaml
