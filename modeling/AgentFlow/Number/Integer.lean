/-!
# Integers of bounded range

Decimal texts of integers, and the ranges of fixed-width integers that settings, records and task
lists confine them to. Main statement: what is read lies in the range asked for.
-/

namespace AgentFlow.Number

/-- An interval of integers, both ends included. -/
structure IntRange where
  /-- The least integer of the range. -/
  least : Int
  /-- The greatest integer of the range. -/
  greatest : Int

namespace IntRange

/-- Signed integers of 64 bits: record ids and step keys. -/
def int64 : IntRange := ⟨-0x8000000000000000, 0x7FFFFFFFFFFFFFFF⟩

/-- Unsigned integers of 64 bits: positions. -/
def uint64 : IntRange := ⟨0, 0xFFFFFFFFFFFFFFFF⟩

/-- Unsigned integers of 32 bits: token counts. -/
def uint32 : IntRange := ⟨0, 0xFFFFFFFF⟩

/-- Unsigned integers of 16 bits: port numbers. -/
def uint16 : IntRange := ⟨0, 0xFFFF⟩

/-- Signed integers of 128 bits. -/
def int128 : IntRange :=
  ⟨-0x80000000000000000000000000000000, 0x7FFFFFFFFFFFFFFFFFFFFFFFFFFFFFFF⟩

/-- Unsigned integers of 128 bits. -/
def uint128 : IntRange := ⟨0, 0xFFFFFFFFFFFFFFFFFFFFFFFFFFFFFFFF⟩

/-- Membership in the range. -/
def contains (r : IntRange) (n : Int) : Bool := r.least ≤ n && n ≤ r.greatest

/-- The integer of the range that lies nearest to `n`. -/
def clamp (r : IntRange) (n : Int) : Int := min r.greatest (max r.least n)

/-- An integer of the range is its own nearest one. -/
theorem clamp_of_contains {r : IntRange} {n : Int} (h : r.contains n = true) : r.clamp n = n := by
  simp only [contains, Bool.and_eq_true, decide_eq_true_eq] at h
  simp only [clamp]
  omega

end IntRange

/-- The value of a digit in a base of at most sixteen. -/
def digitValue? (base : Nat) (c : Char) : Option Nat :=
  let v? :=
    if '0' ≤ c ∧ c ≤ '9' then some (c.toNat - '0'.toNat)
    else if 'a' ≤ c ∧ c ≤ 'f' then some (c.toNat - 'a'.toNat + 10)
    else if 'A' ≤ c ∧ c ≤ 'F' then some (c.toNat - 'A'.toNat + 10)
    else none
  v?.filter (· < base)

/-- The number that the digits write, if there is a digit and nothing else. -/
def readNat? (base : Nat) : List Char → Option Nat
  | [] => none
  | cs => cs.foldl (fun n? c => do return (← n?) * base + (← digitValue? base c)) (some 0)

/-- An integer of the range: digits after an optional sign. A minus sign is allowed only where the
range has negative integers, so that `-0` is no unsigned integer. -/
def readIntBase? (base : Nat) (r : IntRange) (cs : List Char) : Option Int :=
  let n? := match cs with
    | '+' :: ds => (readNat? base ds).map Int.ofNat
    | '-' :: ds => if r.least < 0 then (readNat? base ds).map (- Int.ofNat ·) else none
    | ds => (readNat? base ds).map Int.ofNat
  n?.filter r.contains

/-- A decimal integer of the range. -/
def readInt? (r : IntRange) (cs : List Char) : Option Int := readIntBase? 10 r cs

/-- Only integers of the range are read. -/
theorem contains_of_readInt? {r : IntRange} {cs : List Char} {n : Int}
    (h : readInt? r cs = some n) : r.contains n = true := by
  unfold readInt? readIntBase? at h
  exact (Option.filter_eq_some_iff.mp h).2

end AgentFlow.Number
