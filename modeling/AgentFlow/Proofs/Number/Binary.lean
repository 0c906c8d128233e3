import AgentFlow.Number.Binary
import Mathlib.Algebra.Order.Field.Power
import Mathlib.Algebra.Order.Field.Rat
import Mathlib.Tactic.NormNum

/-!
# The numbers that binary values stand for

The value of a binary number as a fraction. A number is read as an integer exactly if its value is
whole, however it is split into a mantissa and a power of two. Integers that a signed word does not
hold but an unsigned one does are rounded to whole numbers beyond the signed ones.
-/

namespace AgentFlow.Number

/-- The number as a fraction. -/
def Scaled.value (x : Scaled) : Rat := x.mantissa * 2 ^ x.exponent

/-- The number that a value stands for, if it is finite. -/
def Binary.value? {f : BinaryFormat} : Binary f → Option Rat
  | finite negative x => some (if negative then -x.value else x.value)
  | _ => none

/-- A power is the fraction of two powers with natural exponents. -/
theorem zpow_mul_pow_toNat {b : Rat} (hb : b ≠ 0) (e : Int) :
    b ^ e * b ^ (-e).toNat = b ^ e.toNat := by
  rw [← zpow_natCast, ← zpow_natCast, ← zpow_add₀ hb]
  congr 1
  omega

namespace Scaled

/-- The denominator of a number is positive. -/
theorem den_pos (x : Scaled) : 0 < x.den := Nat.pow_pos (by decide)

/-- A number is its numerator over its denominator. -/
theorem value_mul_den (x : Scaled) : x.value * x.den = x.num := by
  calc x.value * x.den = x.mantissa * (2 ^ x.exponent * 2 ^ (-x.exponent).toNat) := by
        simp only [value, den, Nat.pow_eq, Nat.cast_pow, Nat.cast_ofNat, mul_assoc]
    _ = x.num := by
        rw [zpow_mul_pow_toNat two_ne_zero]
        simp only [num, Nat.pow_eq, Nat.cast_mul, Nat.cast_pow, Nat.cast_ofNat]

/-- A number is no less than zero. -/
theorem value_nonneg (x : Scaled) : 0 ≤ x.value :=
  mul_nonneg (Nat.cast_nonneg _) (zpow_nonneg zero_le_two _)

/-- A number is zero exactly if its mantissa is. -/
theorem value_eq_zero_iff {x : Scaled} : x.value = 0 ↔ x.mantissa = 0 := by
  rw [value, mul_eq_zero, Nat.cast_eq_zero, or_iff_left (zpow_ne_zero _ two_ne_zero)]

/-- A number is read as a natural one exactly if it is that number. -/
theorem toNat?_eq_some_iff {x : Scaled} {n : Nat} : x.toNat? = some n ↔ x.value = n := by
  have hden : (x.den : Rat) ≠ 0 := Nat.cast_ne_zero.mpr x.den_pos.ne'
  have hvalue : x.value = n ↔ x.num = n * x.den := by
    rw [← mul_left_inj' hden, value_mul_den, ← Nat.cast_mul, Nat.cast_inj]
  rw [hvalue, toNat?]
  constructor
  · intro h
    split at h
    next hmod =>
      rw [← Option.some.inj h, Nat.div_mul_cancel (Nat.dvd_of_mod_eq_zero hmod)]
    · cases h
  · intro h
    rw [h, Nat.mul_mod_left, if_pos rfl, Nat.mul_div_cancel n x.den_pos]

end Scaled

namespace Binary

variable {f : BinaryFormat}

/-- A value is zero exactly if it stands for zero. -/
theorem isZero_iff {x : Binary f} : x.isZero = true ↔ x.value? = some 0 := by
  cases x with
  | finite negative x =>
    rw [isZero, value?, beq_iff_eq, Option.some.injEq, ← Scaled.value_eq_zero_iff]
    cases negative <;> simp
  | infinite _ | nan => simp [isZero, value?]

/-- A value is read as an integer exactly if it stands for that integer. -/
theorem toInt?_eq_some_iff {x : Binary f} {k : Int} :
    x.toInt? = some k ↔ x.value? = some (k : Rat) := by
  cases x with
  | infinite negative => simp [toInt?, value?]
  | nan => simp [toInt?, value?]
  | finite negative x =>
    rw [toInt?, value?, Option.map_eq_some_iff, Option.some.injEq]
    constructor
    · rintro ⟨n, hn, rfl⟩
      rw [Scaled.toNat?_eq_some_iff.mp hn]
      cases negative <;> simp
    · intro h
      obtain ⟨n, hn⟩ : ∃ n : Nat, x.value = n := by
        refine ⟨k.natAbs, ?_⟩
        rw [Nat.cast_natAbs, Int.cast_abs, ← h]
        cases negative <;> simp [abs_of_nonneg x.value_nonneg]
      refine ⟨n, Scaled.toNat?_eq_some_iff.mpr hn, ?_⟩
      rw [hn] at h
      cases negative with
      | true =>
        rw [if_pos rfl] at h ⊢
        exact_mod_cast h
      | false =>
        rw [if_neg Bool.false_ne_true] at h ⊢
        exact_mod_cast h

end Binary

/-- Rounding a quotient gives the one of the two integers around it. -/
theorem roundQuotient_mem (num den : Nat) :
    num / den ≤ roundQuotient num den ∧ roundQuotient num den ≤ num / den + 1 := by
  simp only [roundQuotient]
  split
  · omega
  · split
    · omega
    · split <;> omega

/-- The binary logarithm of an integer. -/
theorem floorLog2_one {n : Nat} (hn : n ≠ 0) : floorLog2 n 1 = n.log2 := by
  have hone : Nat.log2 1 = 0 := by decide
  simp [floorLog2, hone, Nat.log2_self_le hn]

/-- The double nearest to an integer that needs all of 64 bits is a whole number of as many bits, or
the power of two that follows them. -/
theorem nearest_double_of_wide {n : Nat} (hle : 2 ^ 63 ≤ n) (hlt : n < 2 ^ 64) :
    ∃ x, BinaryFormat.double.nearest n 1 = some x ∧ x.den = 1 ∧ 2 ^ 63 ≤ x.num := by
  have hlog : floorLog2 n 1 = 63 := by
    rw [floorLog2_one (by omega), (Nat.log2_eq_iff (by omega)).mpr ⟨hle, hlt⟩]
    rfl
  have hexponent : max BinaryFormat.double.minExponent
      (63 - ((BinaryFormat.double.precision : Int) - 1)) = 11 := by decide
  have hquotient : roundQuotient (n * Nat.pow 2 (-11 : Int).toNat)
      (1 * Nat.pow 2 (11 : Int).toNat) = roundQuotient n (2 ^ 11) := by
    congr 1
    exact Nat.mul_one n
  have hround := (roundQuotient_mem n (2 ^ 11)).1
  simp only [BinaryFormat.nearest, if_neg (show n ≠ 0 by omega), hlog, hexponent, hquotient]
  -- The mantissa may be rounded up to a power of two, which belongs to the next exponent.
  by_cases hm : roundQuotient n (2 ^ 11) = Nat.pow 2 BinaryFormat.double.precision
  · rw [if_pos hm]
    exact ⟨⟨2 ^ 52, 12⟩, rfl, rfl, by decide⟩
  · rw [if_neg hm]
    refine ⟨⟨roundQuotient n (2 ^ 11), 11⟩, rfl, rfl, ?_⟩
    have hnum : Scaled.num ⟨roundQuotient n (2 ^ 11), 11⟩ = roundQuotient n (2 ^ 11) * 2 ^ 11 := rfl
    omega

/-- The double nearest to an integer that a signed word is too short for, but not an unsigned one,
is a whole number that a signed word is too short for. -/
theorem Binary.toInt?_ofInt_of_wide {n : Int} (hle : 2 ^ 63 ≤ n) (hlt : n < 2 ^ 64) :
    ∃ k : Int, (Binary.ofInt n : Double).toInt? = some k ∧ 2 ^ 63 ≤ k := by
  obtain ⟨x, hx, hden, hnum⟩ :=
    nearest_double_of_wide (n := n.natAbs) (by omega) (by omega)
  have hnat : x.toNat? = some x.num := by
    rw [Scaled.toNat?, hden, Nat.mod_one, if_pos rfl, Nat.div_one]
  have hpositive : ¬ n < 0 := by omega
  refine ⟨x.num, ?_, by exact_mod_cast hnum⟩
  rw [ofInt, ofFraction, hx, decide_eq_false hpositive]
  simp only [toInt?, hnat, Option.map_some, Bool.false_eq_true, if_false]

end AgentFlow.Number
