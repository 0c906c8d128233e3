/-!
# Binary floating-point numbers

Floating-point numbers as exact values: a sign, a mantissa and a power of two. Rounding is to the
nearest value of the format, a tie going to the even mantissa; it is computed on quotients of
natural numbers, so every operation is exact arithmetic followed by one rounding.
-/

namespace AgentFlow.Number

/-- The extent of a binary floating-point format. -/
structure BinaryFormat where
  /-- Number of significant bits. -/
  precision : Nat
  /-- Least power of two that a mantissa is scaled by. -/
  minExponent : Int
  /-- Greatest power of two that a mantissa is scaled by. -/
  maxExponent : Int

/-- The format of 64 bits. -/
def BinaryFormat.double : BinaryFormat := ⟨53, -1074, 971⟩

/-- The format of 32 bits. -/
def BinaryFormat.single : BinaryFormat := ⟨24, -149, 104⟩

/-- The number `mantissa * 2 ^ exponent`. -/
structure Scaled where
  mantissa : Nat
  exponent : Int
deriving DecidableEq, Repr

namespace Scaled

/-- Numerator of the number as a fraction. -/
def num (x : Scaled) : Nat := x.mantissa * Nat.pow 2 x.exponent.toNat

/-- Denominator of the number as a fraction: a power of two. -/
def den (x : Scaled) : Nat := Nat.pow 2 (-x.exponent).toNat

/-- The number itself, if it is a whole one. -/
def toNat? (x : Scaled) : Option Nat :=
  if x.num % x.den = 0 then some (x.num / x.den) else none

end Scaled

/-- A value of a binary format. -/
inductive Binary (f : BinaryFormat) where
  /-- A finite value: its sign, which zero has too, and its magnitude. -/
  | finite (negative : Bool) (magnitude : Scaled)
  /-- A value beyond all finite ones. -/
  | infinite (negative : Bool)
  /-- No number. -/
  | nan
deriving DecidableEq, Repr

/-- Values of 64 bits. -/
abbrev Double := Binary .double

/-- Values of 32 bits. -/
abbrev Single := Binary .single

/-- The natural number nearest to `num / den`, the even one of two equally near ones. -/
def roundQuotient (num den : Nat) : Nat :=
  let q := num / den
  let r := num % den
  if 2 * r < den then q
  else if den < 2 * r then q + 1
  else if q % 2 = 0 then q else q + 1

/-- The greatest `e` with `2 ^ e ≤ num / den`, for positive numbers. -/
def floorLog2 (num den : Nat) : Int :=
  let guess : Int := (num.log2 : Int) - den.log2
  if den * Nat.pow 2 guess.toNat ≤ num * Nat.pow 2 (-guess).toNat then guess else guess - 1

namespace BinaryFormat

/-- The value of the format nearest to `num / den`, or nothing if that lies beyond the greatest
finite one. The exponent is the one that leaves `precision` bits before the point, but not less than
the least exponent, below which numbers lose bits. -/
def nearest (f : BinaryFormat) (num den : Nat) : Option Scaled :=
  if num = 0 then some ⟨0, f.minExponent⟩
  else
    let e := max f.minExponent (floorLog2 num den - (f.precision - 1))
    let m := roundQuotient (num * Nat.pow 2 (-e).toNat) (den * Nat.pow 2 e.toNat)
    let x : Scaled :=
      if m = Nat.pow 2 f.precision then ⟨Nat.pow 2 (f.precision - 1), e + 1⟩ else ⟨m, e⟩
    if x.exponent ≤ f.maxExponent then some x else none

end BinaryFormat

namespace Binary

variable {f g : BinaryFormat}

/-- The value nearest to a fraction with a sign. -/
def ofFraction (negative : Bool) (num den : Nat) : Binary f :=
  match f.nearest num den with
  | some x => .finite negative x
  | none => .infinite negative

/-- The value nearest to an integer. -/
def ofInt (n : Int) : Binary f := ofFraction (n < 0) n.natAbs 1

/-- The value nearest to `significand * 10 ^ exponent`. Exponents that leave the range of every
format are answered at once, without raising ten to them. -/
def ofDecimal (negative : Bool) (significand : Nat) (exponent : Int) : Binary f :=
  let top := exponent + (Nat.toDigits 10 significand).length
  if significand = 0 ∨ top < -400 then ofFraction negative 0 1
  else if 400 < top then .infinite negative
  else ofFraction negative (significand * Nat.pow 10 exponent.toNat) (Nat.pow 10 (-exponent).toNat)

/-- The nearest value in another format. -/
def convert : Binary f → Binary g
  | finite negative x => ofFraction negative x.num x.den
  | infinite negative => .infinite negative
  | nan => .nan

/-- Zero, of either sign. -/
def isZero : Binary f → Bool
  | finite _ x => x.mantissa == 0
  | _ => false

/-- A finite value. -/
def isFinite : Binary f → Bool
  | finite _ _ => true
  | _ => false

/-- The value as an integer, if it is finite and whole. -/
def toInt? : Binary f → Option Int
  | finite negative x => x.toNat?.map fun (n : Nat) => if negative then -(n : Int) else n
  | _ => none

end Binary

end AgentFlow.Number
