import AgentFlow.Yaml.Node
import AgentFlow.Yaml.Scalar

/-!
# Tokens of YAML texts

A text is cut into tokens from left to right. The indentation of blocks is told by tokens of its
own. Whether a scalar is a key is known only at the colon after it; until then the place is kept
where the tokens for the key would go, and they are put there once the colon is met. Such a key must
lie on one line and be short.
-/

namespace AgentFlow.Yaml

/-- A token of a text. -/
inductive Token where
  | version (major minor : Nat)
  | tagHandle (handle stands : List Char)
  | documentStart
  | documentEnd
  | streamEnd
  | blockSequenceStart
  | blockMappingStart
  | blockEnd
  | flowSequenceStart
  | flowSequenceEnd
  | flowMappingStart
  | flowMappingEnd
  | blockEntry
  | flowEntry
  | key
  | value
  | alias (name : List Char)
  | anchor (name : List Char)
  | tag (handle suffix : List Char)
  | scalar (style : Style) (text : List Char)
deriving DecidableEq, Repr

/-- A place where a key may have begun. -/
structure PossibleKey where
  /-- A key must have begun here: the block has no other continuation. -/
  required : Bool
  /-- The number of tokens before. -/
  number : Nat
  index : Nat
  line : Nat
  column : Nat

/-- The state between two tokens. -/
structure Scanner where
  place : Cursor
  /-- The tokens so far, the latest first. -/
  tokens : List Token
  /-- The column of the innermost block; below zero outside of all. -/
  indent : Int
  /-- The columns of the blocks around it. -/
  outer : List Int
  /-- Whether a key may begin here. -/
  keyAllowed : Bool
  /-- Where a key may have begun on the innermost level of brackets. -/
  possible : Option PossibleKey
  /-- The same for the levels around it: one for each bracket that is open. -/
  enclosing : List (Option PossibleKey)

namespace Scanner

/-- The state before the first token. -/
def start (cs : List Char) : Scanner := ⟨.start cs, [], -1, [], true, none, []⟩

/-- Inside of brackets. -/
def inFlow (s : Scanner) : Bool := !s.enclosing.isEmpty

/-- Adds a token. -/
def push (t : Token) (s : Scanner) : Scanner := { s with tokens := t :: s.tokens }

/-- Adds a token behind the first `number` ones. -/
def insert (number : Nat) (t : Token) (s : Scanner) : Scanner :=
  let later := s.tokens.length - number
  { s with tokens := s.tokens.take later ++ t :: s.tokens.drop later }

/-- Adds a token and passes over the characters that it stands for. -/
def take (t : Token) (width : Nat) (s : Scanner) : Scanner :=
  { s.push t with place := s.place.advance width }

/-- A key can have begun only on the same line and not far before, in bytes. -/
def isStale (s : Scanner) (k : PossibleKey) : Bool :=
  k.line < s.place.line || k.index + 1024 < s.place.index

/-- Gives up a place where a key may have begun, unless it must be one. -/
def dropStale (s : Scanner) : Option PossibleKey → Option (Option PossibleKey)
  | none => some none
  | some k => if s.isStale k then if k.required then none else some none else some (some k)

/-- Gives up the places that are too far behind. -/
def dropAllStale (s : Scanner) : Option Scanner := do
  let possible ← s.dropStale s.possible
  let enclosing ← s.enclosing.mapM s.dropStale
  return { s with possible, enclosing }

/-- Gives up the place on the innermost level. -/
def dropKey (s : Scanner) : Option Scanner :=
  match s.possible with
  | some k => if k.required then none else some { s with possible := none }
  | none => some s

/-- Keeps the place if a key may begin here. -/
def keepKey (s : Scanner) : Option Scanner :=
  if s.keyAllowed then do
    let s ← s.dropKey
    let required := !s.inFlow && s.indent == s.place.column
    return { s with
      possible := some ⟨required, s.tokens.length, s.place.index, s.place.line, s.place.column⟩ }
  else some s

/-- Opens a block if the column lies further right than the block around; the token goes behind the
first `number` ones. -/
def openBlock (column : Nat) (number : Nat) (t : Token) (s : Scanner) : Scanner :=
  if !s.inFlow && s.indent < column then
    { s.insert number t with indent := column, outer := s.indent :: s.outer }
  else s

/-- Closes the blocks that lie further right than a column. -/
def closeBlocks (column : Int) (s : Scanner) : Scanner :=
  if s.inFlow then s else go s.outer s
where
  /-- Closes blocks, given the columns around the innermost one. -/
  go : List Int → Scanner → Scanner
    | [], s => s
    | next :: outer, s =>
      if column < s.indent then go outer { s.push .blockEnd with indent := next, outer := outer }
      else s

/-! ### Between tokens -/

/-- Passes over blanks, comments and line breaks. Tabs are blanks only where no block can begin. A
byte order mark at the begin of a line is passed over; it takes a column. -/
def skipToToken : Nat → Scanner → Scanner
  | 0, s => s
  | turns + 1, s =>
    let p := s.place
    let p := if p.column = 0 ∧ p.rest.head? = some '\ufeff' then p.advance 1 else p
    let tabs := s.inFlow || !s.keyAllowed
    let p := (p.advanceWhile fun c => c == ' ' || (tabs && c == '\t')).skipComment
    if p.rest.head?.any isBreak then
      skipToToken turns { s with place := p.readBreak.2, keyAllowed := s.keyAllowed || !s.inFlow }
    else { s with place := p }

/-! ### Directives -/

/-- The number of a version, of at most nine digits. -/
def readVersionNumber (p : Cursor) : Option (Nat × Cursor) := do
  let digits := p.rest.takeWhile Char.isDigit
  if 9 < digits.length then none
  let n ← Number.readNat? 10 digits
  return (n, p.advance digits.length)

/-- The handle of a tag: an exclamation mark, or a name between two. In a directive nothing else is
one. -/
def readHandle (directive : Bool) (p : Cursor) : Option (List Char × Cursor) :=
  match p.rest with
  | '!' :: rest =>
    let name := rest.takeWhile isNameChar
    let p := p.advance (name.length + 1)
    if p.rest.head? == some '!' then some ('!' :: name ++ ['!'], p.advance 1)
    else if directive && !name.isEmpty then none
    else some ('!' :: name, p)
  | _ => none

/-- A byte written as two digits in base sixteen after a percent sign. -/
def readByte? : List Char → Option Nat
  | '%' :: a :: b :: _ => Number.readNat? 16 [a, b]
  | _ => none

/-- The character that is written as bytes of UTF-8, and how many bytes it takes. -/
def readEscapedChar? (cs : List Char) : Option (Char × Nat) := do
  let first ← readByte? cs
  let following (n : Nat) : Option (List Nat) :=
    (List.range n).mapM fun i => (readByte? (cs.drop (3 * (i + 1)))).filter (· / 64 == 2)
  let (head, width) ←
    if first < 0x80 then some (first, 1)
    else if first / 32 = 6 then some (first % 32, 2)
    else if first / 16 = 14 then some (first % 16, 3)
    else if first / 8 = 30 then some (first % 8, 4)
    else none
  let tail ← following (width - 1)
  return (Char.ofNat (tail.foldl (fun n b => n * 64 + b % 64) head), width)

/-- A character of tags. Some punctuation is allowed only where the tag is delimited. -/
def isTagChar (delimited : Bool) (c : Char) : Bool :=
  isNameChar c || ";/?:@&=+$.%!~*'()".toList.contains c || (delimited && ",[]".toList.contains c)

/-- The text of a tag, in which characters may be escaped. -/
def readTagText (delimited : Bool) : Nat → Cursor → Option (List Char × Cursor)
  | 0, p => some ([], p)
  | turns + 1, p =>
    match p.rest with
    | [] => some ([], p)
    | c :: _ =>
      if !isTagChar delimited c then some ([], p)
      else do
        let (d, width) ← if c = '%' then (readEscapedChar? p.rest).map fun (d, n) => (d, 3 * n)
          else some (c, 1)
        let (ds, p) ← readTagText delimited turns (p.advance width)
        return (d :: ds, p)

/-- The text of a tag, which must not be empty. -/
def readTagText1 (delimited : Bool) (p : Cursor) : Option (List Char × Cursor) :=
  (readTagText delimited p.rest.length p).filter fun (text, _) => !text.isEmpty

/-- A directive, whose percent sign has been read. -/
def readDirective (p : Cursor) : Option (Token × Cursor) := do
  let name := p.rest.takeWhile isNameChar
  let p := p.advance name.length
  if name.isEmpty || !endsWord p.rest then none
  let p' := p.advanceWhile isBlank
  if name = "YAML".toList then
    let (major, p) ← readVersionNumber p'
    if p.rest.head? != some '.' then none
    let (minor, p) ← readVersionNumber (p.advance 1)
    return (.version major minor, ← p.finishLine?)
  else if name = "TAG".toList then
    let (handle, p) ← readHandle true p'
    if !p.rest.head?.any isBlank then none
    let (stands, p) ← readTagText1 true (p.advanceWhile isBlank)
    if !endsWord p.rest then none
    return (.tagHandle handle stands, ← p.finishLine?)
  else none

/-! ### Tokens -/

/-- The name of an anchor or alias, whose sign has been read. -/
def readAnchorName (p : Cursor) : Option (List Char × Cursor) :=
  let name := p.rest.takeWhile isNameChar
  let p := p.advance name.length
  if name.isEmpty then none
  else if endsWord p.rest || startsWith p.rest "?:,]\x7d%@`" then some (name, p)
  else none

/-- A tag: in full between angle brackets, or a handle and what follows it. -/
def readTag (p : Cursor) : Option ((List Char × List Char) × Cursor) :=
  match p.rest with
  | '!' :: '<' :: _ => do
    let (text, p) ← readTagText1 true (p.advance 2)
    if p.rest.head? == some '>' then return (([], text), p.advance 1) else none
  | _ => do
    let (handle, p) ← readHandle false p
    if 2 ≤ handle.length ∧ handle.getLast? = some '!' then
      let (text, p) ← readTagText1 false p
      return ((handle, text), p)
    else
      let (more, p) ← readTagText false p.rest.length p
      let text := handle.drop 1 ++ more
      return (if text.isEmpty then ([], ['!']) else (['!'], text), p)

/-- An opening bracket: what is inside has possible keys of its own. -/
def openFlow (t : Token) (s : Scanner) : Option Scanner := do
  let s ← s.keepKey
  let s := s.take t 1
  return { s with enclosing := s.possible :: s.enclosing, possible := none, keyAllowed := true }

/-- A closing bracket. -/
def closeFlow (t : Token) (s : Scanner) : Option Scanner := do
  let s ← s.dropKey
  let s := match s.enclosing with
    | possible :: enclosing => { s with possible, enclosing }
    | [] => s
  return { s.take t 1 with keyAllowed := false }

/-- The sign of a sequence's element. -/
def entry (s : Scanner) : Option Scanner := do
  if !s.inFlow && !s.keyAllowed then none
  let s := s.openBlock s.place.column s.tokens.length .blockSequenceStart
  let s ← s.dropKey
  return { s.take .blockEntry 1 with keyAllowed := true }

/-- The sign of a key. -/
def keySign (s : Scanner) : Option Scanner := do
  if !s.inFlow && !s.keyAllowed then none
  let s := s.openBlock s.place.column s.tokens.length .blockMappingStart
  let s ← s.dropKey
  return { s.take .key 1 with keyAllowed := !s.inFlow }

/-- The sign of a value: the key that may have begun before has begun there. -/
def valueSign (s : Scanner) : Option Scanner :=
  match s.possible with
  | some k =>
    let s := (s.insert k.number .key).openBlock k.column k.number .blockMappingStart
    some { s.take .value 1 with possible := none, keyAllowed := false }
  | none => do
    if !s.inFlow && !s.keyAllowed then none
    let s := s.openBlock s.place.column s.tokens.length .blockMappingStart
    return { s.take .value 1 with keyAllowed := !s.inFlow }

/-- A token that may begin a key, read from the place on. -/
def content (read : Cursor → Option (Token × Cursor)) (s : Scanner) : Option Scanner := do
  let s ← s.keepKey
  let (t, p) ← read s.place
  return { s.push t with place := p, keyAllowed := false }

/-- A block scalar, after which a key may begin. -/
def block (literal : Bool) (s : Scanner) : Option Scanner := do
  let s ← s.dropKey
  let (text, p) ← readBlock literal s.indent (s.place.advance 1)
  return { s.push (.scalar (if literal then .literal else .quoted) text) with
    place := p, keyAllowed := true }

/-- A plain scalar, after which a key may begin if a line break follows. -/
def plain (s : Scanner) : Option Scanner := do
  let s ← s.keepKey
  let ((text, broken), p) ←
    readPlain s.inFlow (s.indent + 1) (s.place.rest.length + 1) [] .none s.place
  return { s.push (.scalar .plain text) with place := p, keyAllowed := broken }

/-- A quoted scalar, from its opening quote on. -/
def quoted (quote : Char) (p : Cursor) : Option (Token × Cursor) := do
  let (text, p) ← readQuoted quote (p.rest.length + 1) [] (p.advance 1)
  return (.scalar .quoted text, p)

/-- A tag, which must stand alone. -/
def tagToken (flow : Bool) (p : Cursor) : Option (Token × Cursor) := do
  let ((handle, suffix), p) ← readTag p
  if endsWord p.rest || (flow && p.rest.head? == some ',') then return (.tag handle suffix, p)
  else none

/-- A plain scalar begins with a character that has no other meaning, or with a sign that what
follows does not make one. -/
def beginsPlain (flow : Bool) (c : Char) (rest : List Char) : Bool :=
  !(isBlankOrBreak c || "-?:,[]\x7b\x7d#&*!|>'\"%@`".toList.contains c) ||
    (c == '-' && !startsWith rest " \t") ||
    (!flow && (c == '?' || c == ':') && !endsWord rest)

/-- Reads the next token; nothing is left after it if it ends the stream. -/
def next (s : Scanner) : Option Scanner := do
  let s ← (skipToToken (s.place.rest.length + 1) s).dropAllStale
  let s := s.closeBlocks s.place.column
  let p := s.place
  let flow := s.inFlow
  match p.rest with
  | [] => return (← (s.closeBlocks (-1)).dropKey).push .streamEnd
  | c :: rest =>
    if p.column = 0 ∧ c = '%' then
      let s ← (s.closeBlocks (-1)).dropKey
      let (t, p) ← readDirective (s.place.advance 1)
      return { s.push t with place := p, keyAllowed := false }
    else if p.atDocumentMarker then
      let s ← (s.closeBlocks (-1)).dropKey
      let t := if c = '-' then Token.documentStart else .documentEnd
      return { s.take t 3 with keyAllowed := false }
    else if c = '[' then s.openFlow .flowSequenceStart
    else if c = '{' then s.openFlow .flowMappingStart
    else if c = ']' then s.closeFlow .flowSequenceEnd
    else if c = '}' then s.closeFlow .flowMappingEnd
    else if c = ',' then return { (← s.dropKey).take .flowEntry 1 with keyAllowed := true }
    else if c = '-' ∧ endsWord rest then s.entry
    else if c = '?' ∧ (flow ∨ endsWord rest) then s.keySign
    else if c = ':' ∧ (flow ∨ endsWord rest) then s.valueSign
    else if c = '*' then
      s.content fun p => (readAnchorName (p.advance 1)).map fun (name, p) => (.alias name, p)
    else if c = '&' then
      s.content fun p => (readAnchorName (p.advance 1)).map fun (name, p) => (.anchor name, p)
    else if c = '!' then s.content (tagToken flow)
    else if c = '|' ∧ !flow then s.block true
    else if c = '>' ∧ !flow then s.block false
    else if c = '\'' ∨ c = '"' then s.content (quoted c)
    else if beginsPlain flow c rest then s.plain
    else none

/-- Reads tokens until the stream has ended. Each turn reads one. -/
def run : Nat → Scanner → Option (List Token)
  | 0, _ => none
  | turns + 1, s => do
    let s ← s.next
    if s.tokens.head? == some .streamEnd then return s.tokens.reverse else run turns s

end Scanner

/-- A character that may stand in a text. -/
def isPrintable (c : Char) : Bool :=
  let n := c.toNat
  n == 9 || n == 0xA || n == 0xD || (0x20 ≤ n && n ≤ 0x7E) || n == 0x85 ||
    (0xA0 ≤ n && n ≤ 0xFFFD) || 0x10000 ≤ n

/-- The tokens of a text, unless it is malformed. -/
def tokens? (text : List Char) : Option (List Token) :=
  if text.all isPrintable then Scanner.run (2 * text.length + 2) (.start text) else none

end AgentFlow.Yaml
