import AgentFlow.Codec.Basic
import AgentFlow.Text.Blank

/-!
# Instants

The times at which records were made and changed, in universal time. They are written in the form of
RFC 3339 and read from a looser form of it, with any offset. A clock counts nanoseconds since the
beginning of the year 1970.
-/

namespace AgentFlow.Time

open Text

/-- A day of the Gregorian calendar, extended to all years. -/
structure Date where
  year : Int
  month : Nat
  day : Nat
deriving DecidableEq, Repr, Inhabited

/-- An instant in universal time. A leap second is second 60 of its minute. -/
structure Instant where
  date : Date
  /-- Minutes since midnight. -/
  minute : Nat
  second : Nat
  nanosecond : Nat
deriving DecidableEq, Repr, Inhabited

namespace Date

/-- Whether a year has 366 days. -/
def isLeapYear (year : Int) : Bool := year % 4 == 0 && (year % 100 != 0 || year % 400 == 0)

/-- The number of days in a month. -/
def daysInMonth (year : Int) (month : Nat) : Nat :=
  if month = 2 then if isLeapYear year then 29 else 28
  else if month = 4 ∨ month = 6 ∨ month = 9 ∨ month = 11 then 30
  else 31

/-- Years outside of these are not representable. -/
def isYear (year : Int) : Bool := -262143 ≤ year && year ≤ 262142

/-- The day before, unless it is not representable. -/
def previous? (d : Date) : Option Date :=
  if 1 < d.day then some { d with day := d.day - 1 }
  else if 1 < d.month then some ⟨d.year, d.month - 1, daysInMonth d.year (d.month - 1)⟩
  else if isYear (d.year - 1) then some ⟨d.year - 1, 12, 31⟩
  else none

/-- The day after, unless it is not representable. -/
def next? (d : Date) : Option Date :=
  if d.day < daysInMonth d.year d.month then some { d with day := d.day + 1 }
  else if d.month < 12 then some ⟨d.year, d.month + 1, 1⟩
  else if isYear (d.year + 1) then some ⟨d.year + 1, 1, 1⟩
  else none

end Date

/-! ### Writing -/

/-- A number with leading zeros up to a width. -/
def padded (width n : Nat) : String :=
  let ds := Nat.toDigits 10 n
  String.ofList (List.replicate (width - ds.length) '0' ++ ds)

/-- The year: four digits, with a sign if these do not suffice or it lies before year zero. -/
def yearText (year : Int) : String :=
  if 0 ≤ year ∧ year ≤ 9999 then padded 4 year.natAbs
  else (if year < 0 then "-" else "+") ++ padded 4 year.natAbs

/-- The fraction of a second: nothing, or three, six or nine digits, the fewest that are exact. -/
def fractionText (nanosecond : Nat) : String :=
  if nanosecond = 0 then ""
  else if nanosecond % 1000000 = 0 then "." ++ padded 3 (nanosecond / 1000000)
  else if nanosecond % 1000 = 0 then "." ++ padded 6 (nanosecond / 1000)
  else "." ++ padded 9 nanosecond

/-- The text of an instant. -/
def Instant.text (t : Instant) : String :=
  yearText t.date.year ++ "-" ++ padded 2 t.date.month ++ "-" ++ padded 2 t.date.day ++ "T" ++
    padded 2 (t.minute / 60) ++ ":" ++ padded 2 (t.minute % 60) ++ ":" ++ padded 2 t.second ++
    fractionText t.nanosecond ++ "Z"

/-! ### Reading -/

/-- Why a text is no instant. -/
inductive Fault where
  | tooShort
  | invalid
  | outOfRange
  | tooLong
  | impossible
deriving DecidableEq, Repr

/-- The wording of a fault. -/
def Fault.message : Fault → String
  | tooShort => "premature end of input"
  | invalid => "input contains invalid characters"
  | outOfRange => "input is out of range"
  | tooLong => "trailing input"
  | impossible => "no possible date and time matching input"

/-- A number of at least one digit, and of at most `width` if there is a bound. -/
def readNumber (width : Option Nat) (cs : List Char) : Except Fault (Nat × List Char) :=
  let ds := (match width with
    | some w => cs.take w
    | none => cs).takeWhile Char.isDigit
  if ds.isEmpty then .error (if cs.isEmpty then .tooShort else .invalid)
  else
    let n := ds.foldl (fun n c => n * 10 + (c.toNat - '0'.toNat)) 0
    if n < 0x8000000000000000 then .ok (n, cs.drop ds.length) else .error .outOfRange

/-- A number of at most two digits in a range, after blanks. -/
def readPart (least greatest : Nat) (cs : List Char) : Except Fault (Nat × List Char) := do
  let (n, rest) ← readNumber (some 2) (trimStart cs)
  if least ≤ n ∧ n ≤ greatest then return (n, rest) else .error .outOfRange

/-- The year, after blanks: four digits at most, or any number of them after a sign. -/
def readYear (cs : List Char) : Except Fault (Int × List Char) := do
  let (year, rest) ← match trimStart cs with
    | '-' :: r => do
      let (n, rest) ← readNumber none r
      pure (-(n : Int), rest)
    | '+' :: r => do
      let (n, rest) ← readNumber none r
      pure ((n : Int), rest)
    | r => do
      let (n, rest) ← readNumber (some 4) r
      pure ((n : Int), rest)
  if -0x80000000 ≤ year ∧ year < 0x80000000 then return (year, rest) else .error .outOfRange

/-- A separator, after blanks. -/
def readSeparator (c : Char) (cs : List Char) : Except Fault (List Char) :=
  match trimStart cs with
  | [] => .error .tooShort
  | d :: rest => if d = c then .ok rest else .error .invalid

/-- The fraction of a second, if there is a point: digits beyond the ninth do not count. -/
def readFraction : List Char → Except Fault (Nat × List Char)
  | '.' :: cs => do
    let (n, rest) ← readNumber (some 9) cs
    return (n * Nat.pow 10 (9 - (cs.length - rest.length)), rest.dropWhile Char.isDigit)
  | cs => .ok (0, cs)

/-- The distance to universal time in minutes, eastward: `Z`, `UTC`, or hours and minutes. -/
def readOffset (cs : List Char) : Except Fault (Int × List Char) :=
  match cs with
  | 'Z' :: rest => .ok (0, rest)
  | 'z' :: rest => .ok (0, rest)
  | _ =>
    if (cs.take 3).map Char.toLower = ['u', 't', 'c'] then .ok (0, cs.drop 3)
    else match cs with
      | [] => .error .tooShort
      | c :: rest => do
        let west := c == '-' || c == '\u2212'
        if !west && c != '+' then throw .invalid
        let (hours, rest) ← readTwo rest
        let rest := rest.dropWhile fun c => c == ':' || isBlank c
        let (minutes, rest) ← readTwo rest
        if 60 ≤ minutes then throw .outOfRange
        let offset : Int := hours * 60 + minutes
        return (if west then -offset else offset, rest)
where
  /-- Two digits; two bytes that are no digits are invalid, fewer are too short. -/
  readTwo : List Char → Except Fault (Nat × List Char)
    | a :: b :: rest =>
      if a.isDigit && b.isDigit then
        .ok ((a.toNat - '0'.toNat) * 10 + (b.toNat - '0'.toNat), rest)
      else .error .invalid
    | [a] => .error (if a.utf8Size = 1 then .tooShort else .invalid)
    | [] => .error .tooShort

/-- The instant of a local time, given how far it is ahead of universal time. -/
def ofLocal? (date : Date) (minute : Nat) (second nanosecond : Nat) (offset : Int) :
    Option Instant := do
  let universal : Int := minute - offset
  let date ← if universal < 0 then date.previous?
    else if 1440 ≤ universal then date.next?
    else some date
  return ⟨date, (universal % 1440).toNat, second, nanosecond⟩

/-- The instant that a text writes. -/
def Instant.read (text : String) : Except Fault Instant := do
  let (year, cs) ← readYear text.toList
  let cs ← readSeparator '-' cs
  let (month, cs) ← readPart 1 12 cs
  let cs ← readSeparator '-' cs
  let (day, cs) ← readPart 1 31 cs
  let cs ← match cs with
    | [] => throw .tooShort
    | c :: rest => if c = 'T' ∨ c = 't' ∨ c = ' ' then pure rest else throw .invalid
  let (hour, cs) ← readPart 0 23 cs
  let cs ← readSeparator ':' cs
  let (minute, cs) ← readPart 0 59 cs
  let cs ← readSeparator ':' cs
  let (second, cs) ← readPart 0 60 cs
  let (nanosecond, cs) ← readFraction cs
  let (offset, cs) ← readOffset (trimStart cs)
  if !(trimStart cs).isEmpty then throw .tooLong
  if !Date.isYear year || Date.daysInMonth year month < day then throw .outOfRange
  if 1440 ≤ offset.natAbs then throw .outOfRange
  match ofLocal? ⟨year, month, day⟩ (hour * 60 + minute) second nanosecond offset with
  | some t => return t
  | none => throw .impossible

/-- Instants as strings. -/
def Instant.codec : Codec Instant :=
  let interpret (s : String) : Except Json.Mismatch Instant :=
    (Instant.read s).mapError fun f => .unreadable f.message
  .leaf
    (fun v => match v with
      | .string s => interpret s
      | v => .error (.kind v.found "an RFC 3339 formatted date and time string"))
    (fun node => match node with
      | .scalar _ _ text => (interpret (String.ofList text)).toOption
      | _ => none)
    (fun t => .string t.text)

/-! ### Clocks -/

/-- The day a number of days after the first of January 1970. Years are counted from March on, so
that the leap day is the last one, in eras of 400 years. -/
def Date.ofDay (n : Nat) : Date :=
  let n := n + 719468
  let era := n / 146097
  let inEra := n % 146097
  let yearInEra := (inEra - inEra / 1460 + inEra / 36524 - inEra / 146096) / 365
  let inYear := inEra - (365 * yearInEra + yearInEra / 4 - yearInEra / 100)
  let monthFromMarch := (5 * inYear + 2) / 153
  let day := inYear - (153 * monthFromMarch + 2) / 5 + 1
  let month := if monthFromMarch < 10 then monthFromMarch + 3 else monthFromMarch - 9
  ⟨(era * 400 + yearInEra + (if month ≤ 2 then 1 else 0) : Nat), month, day⟩

/-- The instant a number of nanoseconds after the beginning of the year 1970. -/
def Instant.ofNanoseconds (n : Nat) : Instant :=
  let seconds := n / 1000000000
  let minutes := seconds / 60
  ⟨Date.ofDay (minutes / 1440), minutes % 1440, seconds % 60, n % 1000000000⟩

end AgentFlow.Time
