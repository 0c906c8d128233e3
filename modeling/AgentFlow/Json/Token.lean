import AgentFlow.Json.Fault
import AgentFlow.Number.Integer

/-!
# Tokens of JSON texts

Blanks, words, strings, numbers and the punctuation of arrays and objects. A reader takes the text
that is left and gives back what it read and what is left then.
-/

namespace AgentFlow.Json

open Number

/-- The outcome of reading, which may fail. -/
abbrev Read := Except Fault

/-- The four blanks of JSON. -/
def isSpace (c : Char) : Bool := c == ' ' || c == '\n' || c == '\t' || c == '\r'

/-- The text after its leading blanks. -/
def skipSpace (cs : List Char) : List Char := cs.dropWhile isSpace

/-- Reads the rest of a word. A character that differs is read before it is refused. -/
def readWord : List Char → List Char → Read (Unit × List Char)
  | [], cs => .ok ((), cs)
  | _ :: _, [] => .error (.here [] .endOfValue)
  | w :: word, c :: cs => if c = w then readWord word cs else .error (.next (c :: cs) .expectedWord)

/-! ### Strings -/

/-- A number of four digits in base sixteen. -/
def readHex4 : List Char → Read (Nat × List Char)
  | a :: b :: c :: d :: rest =>
    match [a, b, c, d].mapM (digitValue? 16) with
    | some ds => .ok (ds.foldl (16 * · + ·) 0, rest)
    | none => .error (hexFault (a :: b :: c :: d :: rest))
  | cs => .error (hexFault cs)
where
  /-- Four bytes are taken for the digits; if there are fewer the text has ended. -/
  hexFault (cs : List Char) : Fault :=
    if Text.byteLength cs < 4 then .here [] .endOfString
    else ⟨.invalidEscape, .at (Text.byteLength cs - 4), []⟩

/-- A surrogate that opens a pair. -/
def isLeading (n : Nat) : Bool := 0xD800 ≤ n && n ≤ 0xDBFF

/-- A surrogate that closes a pair. -/
def isTrailing (n : Nat) : Bool := 0xDC00 ≤ n && n ≤ 0xDFFF

/-- The second half of a character that is written as two escapes, of which `high` was the first. -/
def readTrailing (high : Nat) : List Char → Read (Char × List Char)
  | [] => .error (.here [] .endOfString)
  | '\\' :: [] => .error (.here [] .endOfString)
  | '\\' :: 'u' :: cs => do
    let (low, rest) ← readHex4 cs
    if isTrailing low then
      return (Char.ofNat ((high - 0xD800) * 0x400 + (low - 0xDC00) + 0x10000), rest)
    else .error (.here rest .loneSurrogate)
  | '\\' :: cs => .error (.next cs .endOfEscape)
  | cs => .error (.next cs .endOfEscape)

/-- The character of an escape, whose backslash has been read. -/
def readEscape : List Char → Read (Char × List Char)
  | [] => .error (.here [] .endOfString)
  | '"' :: cs => .ok ('"', cs)
  | '\\' :: cs => .ok ('\\', cs)
  | '/' :: cs => .ok ('/', cs)
  | 'b' :: cs => .ok ('\x08', cs)
  | 'f' :: cs => .ok ('\x0c', cs)
  | 'n' :: cs => .ok ('\n', cs)
  | 'r' :: cs => .ok ('\r', cs)
  | 't' :: cs => .ok ('\t', cs)
  | 'u' :: cs => do
    let (n, rest) ← readHex4 cs
    if isTrailing n then .error (.here rest .loneSurrogate)
    else if isLeading n then readTrailing n rest
    else return (Char.ofNat n, rest)
  | cs => .error (.next cs .invalidEscape)

/-- The characters of a string up to its closing quote, the opening one having been read. Each turn
reads a character, so as many turns as there are characters suffice. -/
def readChars : Nat → List Char → Read (List Char × List Char)
  | 0, _ => .error (.here [] .endOfString)
  | _ + 1, [] => .error (.here [] .endOfString)
  | turns + 1, c :: cs =>
    if c = '"' then .ok ([], cs)
    else if c = '\\' then do
      let (d, rest) ← readEscape cs
      let (ds, rest) ← readChars turns rest
      return (d :: ds, rest)
    else if c.toNat < 0x20 then .error (.here cs .controlCharacter)
    else do
      let (ds, rest) ← readChars turns cs
      return (c :: ds, rest)

/-- A string up to its closing quote, the opening one having been read. -/
def readString (cs : List Char) : Read (String × List Char) := do
  let (s, rest) ← readChars cs.length cs
  return (String.ofList s, rest)

/-! ### Numbers -/

/-- Takes digits into a significand for as long as it stays below `2 ^ 64`, and gives the digits
that were not taken. -/
def takeDigits (significand : Nat) : List Char → Nat × List Char
  | [] => (significand, [])
  | c :: rest =>
    let n := significand * 10 + (c.toNat - '0'.toNat)
    if n < 0x10000000000000000 then takeDigits n rest else (significand, c :: rest)

/-- The power of ten nearest to `10 ^ k` among doubles, for `k` up to 308. -/
def powerOfTen (k : Nat) : Scaled :=
  (BinaryFormat.double.nearest (Nat.pow 10 k) 1).getD ⟨0, BinaryFormat.double.minExponent⟩

/-- Division by a power of ten, in steps of `10 ^ 308` as long as a number is left. A significand
of 64 bits is gone after two such steps. -/
def divideByPower : Nat → Scaled → Nat → Scaled
  | 0, x, _ => x
  | steps + 1, x, k =>
    if x.mantissa = 0 then x
    else
      let p := powerOfTen (min k 308)
      let y := (BinaryFormat.double.nearest (x.num * p.den) (x.den * p.num)).getD x
      if k ≤ 308 then y else divideByPower steps y (k - 308)

/-- The double that is written as a significand and a power of ten: each of the two is rounded, and
so is their product or quotient. Nothing if that is beyond all doubles. -/
def ofParts (significand : Nat) (exponent : Int) : Option Scaled := do
  let x ← BinaryFormat.double.nearest significand 1
  if exponent < 0 then return divideByPower 3 x exponent.natAbs
  else if x.mantissa = 0 then return x
  else if 308 < exponent then none
  else
    let p := powerOfTen exponent.natAbs
    BinaryFormat.double.nearest (x.num * p.num) (x.den * p.den)

/-- A number with a point or an exponent, or one too long for an integer. -/
def finishFloat (negative : Bool) (significand : Nat) (exponent : Int) (cs : List Char) :
    Read (Json × List Char) :=
  match ofParts significand exponent with
  | some x => .ok (float (.finite negative x), cs)
  | none => .error (.here cs .numberOutOfRange)

/-- Takes digits into the exponent for as long as it stays below `2 ^ 31`, and gives the digits that
were not taken. -/
def takeExponent (exponent : Nat) : List Char → Nat × List Char
  | [] => (exponent, [])
  | c :: rest =>
    let n := exponent * 10 + (c.toNat - '0'.toNat)
    if n < 0x80000000 then takeExponent n rest else (exponent, c :: rest)

/-- The part after the letter of an exponent. -/
def readExponent (negative : Bool) (significand : Nat) (exponent : Int) (cs : List Char) :
    Read (Json × List Char) :=
  let (down, cs) := match cs with
    | '+' :: r => (false, r)
    | '-' :: r => (true, r)
    | r => (false, r)
  let ds := cs.takeWhile Char.isDigit
  let rest := cs.dropWhile Char.isDigit
  if ds.isEmpty then
    .error (if cs.isEmpty then .here [] .endOfValue else .next cs .invalidNumber)
  else
    match takeExponent 0 ds with
    | (e, []) => finishFloat negative significand (if down then exponent - e else exponent + e) rest
    | (_, _ :: more) =>
      if significand = 0 || down then
        .ok (float (.ofFraction negative 0 1), rest)
      else .error (.here (more ++ rest) .numberOutOfRange)

/-- An exponent, if one follows. -/
def readOptionalExponent (negative : Bool) (significand : Nat) (exponent : Int) (cs : List Char) :
    Read (Json × List Char) :=
  match cs with
  | 'e' :: r => readExponent negative significand exponent r
  | 'E' :: r => readExponent negative significand exponent r
  | _ => finishFloat negative significand exponent cs

/-- An integer as it was written: one below zero must lie in 64 bits with a sign, and zero with a
sign is no integer; such numbers become doubles. -/
def finishInteger (negative : Bool) (n : Nat) : Json :=
  if !negative then int n
  else if n = 0 ∨ 0x8000000000000000 < n then float (.ofFraction true n 1)
  else int (-n)

/-- The digits of a number after its sign. -/
def readNumber (negative : Bool) (cs : List Char) : Read (Json × List Char) :=
  let ds := cs.takeWhile Char.isDigit
  let rest := cs.dropWhile Char.isDigit
  match ds with
  | [] => .error (if cs.isEmpty then .here [] .endOfValue else .next cs .invalidNumber)
  | '0' :: _ :: _ => .error (.next (cs.drop 1) .invalidNumber)
  | ds =>
    let (significand, excess) := takeDigits 0 ds
    match rest with
    | '.' :: r =>
      let fs := r.takeWhile Char.isDigit
      let rest := r.dropWhile Char.isDigit
      if fs.isEmpty then
        .error (if r.isEmpty then .here [] .endOfValue else .next r .invalidNumber)
      else
        let (significand, dropped) := takeDigits significand fs
        readOptionalExponent negative significand
          ((excess.length : Int) - (fs.length - dropped.length : Nat)) rest
    | 'e' :: r => readExponent negative significand excess.length r
    | 'E' :: r => readExponent negative significand excess.length r
    | rest =>
      if excess.isEmpty then .ok (finishInteger negative significand, rest)
      else finishFloat negative significand excess.length rest

/-! ### Punctuation -/

/-- Whether an array has a further element; its text follows then. -/
def nextElement (first : Bool) (cs : List Char) : Read (Bool × List Char) :=
  match skipSpace cs with
  | [] => .error (.here [] .endOfList)
  | c :: r =>
    if c = ']' then .ok (false, c :: r)
    else if first then .ok (true, c :: r)
    else if c = ',' then
      match skipSpace r with
      | [] => .error (.here [] .endOfValue)
      | d :: r => if d = ']' then .error (.next (d :: r) .trailingComma) else .ok (true, d :: r)
    else .error (.next (c :: r) .expectedListEnd)

/-- Whether an object has a further member; its key, after the opening quote, follows then. -/
def nextKey (first : Bool) (cs : List Char) : Read (Bool × List Char) :=
  match skipSpace cs with
  | [] => .error (.here [] .endOfObject)
  | c :: r =>
    if c = '}' then .ok (false, c :: r)
    else if first then
      if c = '"' then .ok (true, r) else .error (.next (c :: r) .keyNotString)
    else if c = ',' then
      match skipSpace r with
      | [] => .error (.here [] .endOfValue)
      | d :: r =>
        if d = '"' then .ok (true, r)
        else .error (.next (d :: r) (if d = '}' then .trailingComma else .keyNotString))
    else .error (.next (c :: r) .expectedObjectEnd)

/-- The colon after a key. -/
def readColon (cs : List Char) : Read (Unit × List Char) :=
  match skipSpace cs with
  | [] => .error (.here [] .endOfObject)
  | ':' :: r => .ok ((), r)
  | r => .error (.next r .expectedColon)

/-- The end of an array: what is left after it, or the fault that stands in its place. In both cases
what has been read is told, for faults of the array as a whole. -/
def closeArray (cs : List Char) : Option Fault × List Char :=
  match skipSpace cs with
  | [] => (some (.here [] .endOfList), [])
  | ']' :: r => (none, r)
  | ',' :: r =>
    match skipSpace r with
    | ']' :: r => (some (.next (']' :: r) .trailingComma), ']' :: r)
    | r => (some (.next r .trailingCharacters), r)
  | r => (some (.next r .trailingCharacters), r)

/-- The end of an object, like that of an array. -/
def closeObject (cs : List Char) : Option Fault × List Char :=
  match skipSpace cs with
  | [] => (some (.here [] .endOfObject), [])
  | '}' :: r => (none, r)
  | ',' :: r => (some (.next (',' :: r) .trailingComma), ',' :: r)
  | r => (some (.next r .trailingCharacters), r)

end AgentFlow.Json
