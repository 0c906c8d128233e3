import AgentFlow.Number.Binary

/-!
# Decimal forms of floating-point numbers

The shortest decimal number that reads back as a given binary one, the ways in which such digits are
laid out as text, and the reading of decimal texts.
-/

namespace AgentFlow.Number

/-- The number `0.d₁d₂… * 10 ^ point`. -/
structure Decimal where
  /-- The digits, without zeros at either end. -/
  digits : List Char
  /-- The place of the decimal point, counted from before the first digit. -/
  point : Int
deriving DecidableEq, Repr

/-- The `point` of a positive fraction: the `p` with `10 ^ (p - 1) ≤ num / den < 10 ^ p`. A fraction
below one that a power of two divides is no power of ten, so its inverse tells its place. -/
def decimalPoint (num den : Nat) : Int :=
  if den ≤ num then (Nat.toDigits 10 (num / den)).length
  else 1 - (Nat.toDigits 10 (den / num)).length

/-- The numbers that read back as `m * 2 ^ e`, as multiples of a quarter of `2 ^ e`: from the middle
below to the middle above, the one below being nearer at the bottom of a binade. The middles
themselves belong to it iff the mantissa is even. -/
structure ReadBack where
  low : Nat
  high : Nat
  closed : Bool

/-- The numbers that read back as `x`. -/
def Scaled.readBack (f : BinaryFormat) (x : Scaled) : ReadBack where
  low := 4 * x.mantissa -
    (if x.mantissa = Nat.pow 2 (f.precision - 1) ∧ f.minExponent < x.exponent then 1 else 2)
  high := 4 * x.mantissa + 2
  closed := x.mantissa % 2 == 0

/-- Whether `n * unitNum / unitDen`, in the unit of the interval, reads back. -/
def ReadBack.contains (i : ReadBack) (n unitNum unitDen : Nat) : Bool :=
  if i.closed then i.low * unitDen ≤ n * unitNum && n * unitNum ≤ i.high * unitDen
  else i.low * unitDen < n * unitNum && n * unitNum < i.high * unitDen

/-- The decimal number with the given significand, without its trailing zeros. -/
def Decimal.ofSignificand (n : Nat) (exponent : Int) : Decimal :=
  let ds := Nat.toDigits 10 n
  ⟨(ds.reverse.dropWhile (· == '0')).reverse, exponent + ds.length⟩

/-- Which of two neighbours is taken that are equally near. -/
inductive Tie where
  /-- The one with the even last digit. -/
  | even
  /-- The greater one. -/
  | up
deriving DecidableEq, Repr

/-- Whether the neighbour above `below` is taken where the two are equally near. -/
def Tie.goesUp : Tie → Nat → Bool
  | even, below => below % 2 == 1
  | up, _ => true

/-- The nearest of the numbers with `count` digits that read back as `x`, if there is one: of such
numbers the two neighbours of `x` are the only candidates for the nearest. -/
def Scaled.withDigits? (f : BinaryFormat) (tie : Tie) (x : Scaled) (point : Int) (count : Nat) :
    Option Decimal :=
  let exponent := point - count
  -- `10 ^ exponent` in quarters of the last binary place
  let unitNum := 4 * Nat.pow 10 exponent.toNat * Nat.pow 2 (-x.exponent).toNat
  let unitDen := Nat.pow 10 (-exponent).toNat * Nat.pow 2 x.exponent.toNat
  let value := 4 * x.mantissa * unitDen
  let below := value / unitNum
  let above := below + 1
  let i := x.readBack f
  let belowFits := i.contains below unitNum unitDen
  let aboveFits := i.contains above unitNum unitDen
  let aboveAway := above * unitNum - value
  let belowAway := value - below * unitNum
  let aboveNearer := aboveAway < belowAway || (aboveAway == belowAway && tie.goesUp below)
  if belowFits && !(aboveFits && aboveNearer) then some (.ofSignificand below exponent)
  else if aboveFits then some (.ofSignificand above exponent)
  else none

/-- The shortest decimal number that reads back as `x`, the nearest one of that length. Seventeen
digits always suffice for the formats of this library. -/
def Scaled.shortest (f : BinaryFormat) (tie : Tie) (x : Scaled) : Decimal :=
  let point := decimalPoint x.num x.den
  ((List.range 17).findSome? fun n => x.withDigits? f tie point (n + 1)).getD ⟨['0'], 1⟩

/-- How digits become text. -/
structure NumberLayout where
  /-- Numbers whose point lies beyond this on the left are written with an exponent. -/
  leftmost : Option Int
  /-- Numbers whose point lies beyond this on the right are written with an exponent. -/
  rightmost : Option Int
  /-- Whether a whole number in positional form ends in `.0`. -/
  marksWhole : Bool
  /-- Whether a positive exponent has a sign. -/
  signsExponent : Bool
  /-- Which of two shortest numbers is written that are equally near to the value. -/
  tie : Tie

namespace NumberLayout

/-- Numbers in data: positional from five places after the point up to sixteen before it. -/
def data : NumberLayout := ⟨some (-4), some 16, true, true, .even⟩

/-- Numbers in messages: positional from a ten-thousandth up to sixteen places before the point. -/
def message : NumberLayout := ⟨some (-3), some 16, true, false, .up⟩

/-- Numbers as people read them: always positional, a whole number without a point. -/
def plain : NumberLayout := ⟨none, none, false, false, .up⟩

/-- Whether a number with this point is written positionally. -/
def isPositional (l : NumberLayout) (point : Int) : Bool :=
  l.leftmost.all (· ≤ point) && l.rightmost.all (point ≤ ·)

/-- The digits around the point. -/
def positional (l : NumberLayout) (d : Decimal) : List Char :=
  if d.point ≤ 0 then ['0', '.'] ++ List.replicate (-d.point).toNat '0' ++ d.digits
  else if d.digits.length ≤ d.point.toNat then
    d.digits ++ List.replicate (d.point.toNat - d.digits.length) '0' ++
      (if l.marksWhole then ['.', '0'] else [])
  else d.digits.take d.point.toNat ++ '.' :: d.digits.drop d.point.toNat

/-- One digit before the point, and the power of ten after the digits. -/
def exponential (l : NumberLayout) (d : Decimal) : List Char :=
  let e := d.point - 1
  let mantissa := match d.digits with
    | [] => ['0']
    | [c] => [c]
    | c :: rest => c :: '.' :: rest
  let sign := if e < 0 then ['-'] else if l.signsExponent then ['+'] else []
  mantissa ++ 'e' :: sign ++ Nat.toDigits 10 e.natAbs

/-- The text of a magnitude. -/
def magnitude (l : NumberLayout) (f : BinaryFormat) (x : Scaled) : List Char :=
  if x.mantissa = 0 then if l.marksWhole then ['0', '.', '0'] else ['0']
  else
    let d := x.shortest f l.tie
    if l.isPositional d.point then l.positional d else l.exponential d

/-- The text of a value. -/
def text {f : BinaryFormat} (l : NumberLayout) : Binary f → String
  | .finite negative x =>
    String.ofList ((if negative then ['-'] else []) ++ l.magnitude f x)
  | .infinite negative => if negative then "-inf" else "inf"
  | .nan => "NaN"

end NumberLayout

/-- A decimal text taken apart: digits with an optional point, at least one digit in all, and an
optional power of ten. -/
def readDecimal? (cs : List Char) : Option (Nat × Int) := do
  let whole := cs.takeWhile Char.isDigit
  let rest := cs.dropWhile Char.isDigit
  let (fraction, rest) := match rest with
    | '.' :: r => (r.takeWhile Char.isDigit, r.dropWhile Char.isDigit)
    | r => ([], r)
  if whole.isEmpty && fraction.isEmpty then none
  let significand := (whole ++ fraction).foldl (fun n c => n * 10 + (c.toNat - '0'.toNat)) 0
  let exponent ← match rest with
    | [] => some 0
    | c :: r =>
      if c = 'e' ∨ c = 'E' then
        let (negative, ds) := match r with
          | '-' :: ds => (true, ds)
          | '+' :: ds => (false, ds)
          | ds => (false, ds)
        if ds.isEmpty || !ds.all Char.isDigit then none
        else
          let n := ds.foldl (fun n c => n * 10 + (c.toNat - '0'.toNat)) 0
          some (if negative then -(n : Int) else n)
      else none
  return (significand, exponent - fraction.length)

/-- The value nearest to what a text writes: a decimal number, or the words for infinity and for no
number in letters of any case, after an optional sign. -/
def Binary.read? {f : BinaryFormat} (cs : List Char) : Option (Binary f) :=
  let (negative, cs) := match cs with
    | '-' :: r => (true, r)
    | '+' :: r => (false, r)
    | r => (false, r)
  let word := String.ofList (cs.map Char.toLower)
  if word = "inf" ∨ word = "infinity" then some (.infinite negative)
  else if word = "nan" then some .nan
  else (readDecimal? cs).map fun (n, e) => .ofDecimal negative n e

end AgentFlow.Number
