import AgentFlow.Number.Decimal
import AgentFlow.Proofs.Number.Binary
import Mathlib.Tactic.FieldSimp
import Mathlib.Tactic.Linarith
import Mathlib.Tactic.Ring

/-!
# Rounding to a format

A fraction is rounded at the exponent that leaves as many bits before the point as the format has.
It lies beyond all values of the format exactly if it is no less than the middle between the
greatest of them and the power of two that follows. What is a value of a narrow format stays the
same number in a wider one.
-/

namespace AgentFlow.Number

section Fractions

variable {num den : Nat}

/-- Multiples of a fraction are compared with multiples of a power of two in natural numbers. -/
theorem mul_zpow_le_iff (num : Nat) {den : Nat} (hden : den ≠ 0) (a b : Nat) (e : Int) :
    (a : Rat) * 2 ^ e ≤ b * (num / den) ↔
      a * (den * 2 ^ e.toNat) ≤ b * (num * 2 ^ (-e).toNat) := by
  have hdenRat : (0 : Rat) < den := Nat.cast_pos.mpr (Nat.pos_of_ne_zero hden)
  have hpos : (0 : Rat) < den * 2 ^ (-e).toNat := mul_pos hdenRat (pow_pos two_pos _)
  have hleft : (a : Rat) * 2 ^ e * (den * 2 ^ (-e).toNat) = a * (den * 2 ^ e.toNat) := by
    rw [← zpow_mul_pow_toNat two_ne_zero e]
    ring
  have hright : (b : Rat) * (num / den) * (den * 2 ^ (-e).toNat) = b * (num * 2 ^ (-e).toNat) := by
    field_simp
  rw [← mul_le_mul_iff_of_pos_right hpos, hleft, hright]
  exact_mod_cast Iff.rfl

/-- The binary logarithm of a fraction tells between which powers of two it lies. -/
theorem floorLog2_spec (hnum : num ≠ 0) (hden : den ≠ 0) :
    (2 : Rat) ^ floorLog2 num den ≤ num / den ∧
      (num : Rat) / den < 2 ^ (floorLog2 num den + 1) := by
  have hdenRat : (0 : Rat) < den := Nat.cast_pos.mpr (Nat.pos_of_ne_zero hden)
  have hnumLe : (2 : Rat) ^ (num.log2 : Int) ≤ num := by exact_mod_cast Nat.log2_self_le hnum
  have hnumLt : (num : Rat) < 2 ^ ((num.log2 : Int) + 1) := by exact_mod_cast Nat.lt_log2_self
  have hdenLe : (2 : Rat) ^ (den.log2 : Int) ≤ den := by exact_mod_cast Nat.log2_self_le hden
  have hdenLt : (den : Rat) < 2 ^ ((den.log2 : Int) + 1) := by exact_mod_cast Nat.lt_log2_self
  let guess : Int := (num.log2 : Int) - den.log2
  have hupper : (num : Rat) / den < 2 ^ (guess + 1) := by
    rw [div_lt_iff₀ hdenRat]
    calc (num : Rat) < 2 ^ ((num.log2 : Int) + 1) := hnumLt
      _ = 2 ^ (guess + 1) * 2 ^ (den.log2 : Int) := by
          rw [← zpow_add₀ two_ne_zero]
          congr 1
          omega
      _ ≤ 2 ^ (guess + 1) * den := by gcongr
  have hlower : (2 : Rat) ^ (guess - 1) ≤ num / den := by
    rw [le_div_iff₀ hdenRat]
    calc (2 : Rat) ^ (guess - 1) * den ≤ 2 ^ (guess - 1) * 2 ^ ((den.log2 : Int) + 1) := by gcongr
      _ = 2 ^ (num.log2 : Int) := by
          rw [← zpow_add₀ two_ne_zero]
          congr 1
          omega
      _ ≤ num := hnumLe
  have htest := mul_zpow_le_iff num hden 1 1 guess
  rw [Nat.cast_one, one_mul, one_mul, one_mul, one_mul] at htest
  rw [floorLog2]
  split
  next hguess => exact ⟨htest.mpr hguess, hupper⟩
  next hguess =>
    refine ⟨hlower, ?_⟩
    rw [Int.sub_add_cancel]
    exact not_le.mp (mt htest.mp hguess)

/-- A quotient is rounded to no less than an even number exactly if it lies no lower than the middle
below this number. -/
theorem le_roundQuotient_iff {k : Nat} (hden : den ≠ 0) (hpos : 0 < k) (heven : k % 2 = 0) :
    k ≤ roundQuotient num den ↔ (2 * k - 1) * den ≤ 2 * num := by
  have hsplit := Nat.div_add_mod num den
  have hmod := Nat.mod_lt num (Nat.pos_of_ne_zero hden)
  simp only [roundQuotient]
  generalize num / den = q at hsplit ⊢
  generalize num % den = r at hsplit hmod ⊢
  have hdouble : 2 * num = (2 * q) * den + 2 * r := by
    rw [← hsplit]
    ring
  rcases lt_trichotomy k (q + 1) with hlt | rfl | hgt
  · have hle : (2 * k - 1) * den ≤ 2 * q * den := Nat.mul_le_mul_right den (by omega)
    refine iff_of_true ?_ (by omega)
    split_ifs <;> omega
  · -- The number is the upper neighbour, which is taken in the middle, for it is even.
    have hmiddle : (2 * (q + 1) - 1) * den = 2 * q * den + den := by
      rw [show 2 * (q + 1) - 1 = 2 * q + 1 by omega, Nat.add_mul, Nat.one_mul]
    rw [hmiddle, hdouble]
    split_ifs <;> omega
  · have hle : (2 * q + 2) * den ≤ (2 * k - 1) * den := Nat.mul_le_mul_right den (by omega)
    rw [Nat.add_mul] at hle
    refine iff_of_false ?_ (by omega)
    split_ifs <;> omega

/-- A whole quotient is rounded to itself. -/
theorem roundQuotient_mul (hden : den ≠ 0) (q : Nat) : roundQuotient (q * den) den = q := by
  simp only [roundQuotient, Nat.mul_mod_left, Nat.mul_div_cancel q (Nat.pos_of_ne_zero hden)]
  rw [if_pos (by omega)]

end Fractions

/-! ### The nearest value -/

namespace BinaryFormat

variable {f : BinaryFormat} {num den : Nat}

/-- The exponent that a fraction is rounded at. -/
def exponentOf (f : BinaryFormat) (num den : Nat) : Int :=
  max f.minExponent (floorLog2 num den - (f.precision - 1))

/-- The mantissa that a fraction is rounded to at its exponent. -/
def mantissaOf (f : BinaryFormat) (num den : Nat) : Nat :=
  let e := f.exponentOf num den
  roundQuotient (num * 2 ^ (-e).toNat) (den * 2 ^ e.toNat)

/-- The nearest value is the rounded one, if its exponent is not too great. A mantissa that is
rounded up to a power of two belongs to the next exponent. -/
theorem nearest_of_ne_zero (hnum : num ≠ 0) :
    f.nearest num den =
      if f.mantissaOf num den = 2 ^ f.precision then
        if f.exponentOf num den + 1 ≤ f.maxExponent then
          some ⟨2 ^ (f.precision - 1), f.exponentOf num den + 1⟩
        else none
      else if f.exponentOf num den ≤ f.maxExponent then
        some ⟨f.mantissaOf num den, f.exponentOf num den⟩
      else none := by
  rw [nearest, if_neg hnum]
  change (let x : Scaled := if f.mantissaOf num den = 2 ^ f.precision
    then ⟨2 ^ (f.precision - 1), f.exponentOf num den + 1⟩
    else ⟨f.mantissaOf num den, f.exponentOf num den⟩
    if x.exponent ≤ f.maxExponent then some x else none) = _
  by_cases hm : f.mantissaOf num den = 2 ^ f.precision
  · simp only [if_pos hm]
  · simp only [if_neg hm]

section Bounds

variable (hnum : num ≠ 0) (hden : den ≠ 0)
include hnum hden

/-- At its exponent a fraction has no more bits before the point than the format. -/
theorem lt_zpow_exponentOf (f : BinaryFormat) :
    (num : Rat) / den < 2 ^ (f.exponentOf num den + f.precision) := by
  refine (floorLog2_spec hnum hden).2.trans_le (zpow_le_zpow_right₀ one_le_two ?_)
  rw [exponentOf]
  omega

/-- The mantissa is the power of two that follows the format's mantissas at most. -/
theorem mantissaOf_le (f : BinaryFormat) : f.mantissaOf num den ≤ 2 ^ f.precision := by
  have hcompare := mul_zpow_le_iff num hden (2 ^ f.precision) 1 (f.exponentOf num den)
  have hlt := lt_zpow_exponentOf hnum hden f
  rw [add_comm, zpow_add₀ two_ne_zero, zpow_natCast] at hlt
  rw [Nat.cast_pow, Nat.cast_ofNat, Nat.cast_one, one_mul, one_mul] at hcompare
  have hquotient : num * 2 ^ (-f.exponentOf num den).toNat <
      den * 2 ^ (f.exponentOf num den).toNat * 2 ^ f.precision := by
    rw [Nat.mul_comm (den * _)]
    exact not_le.mp (mt hcompare.mpr (not_le.mpr hlt))
  have hround := (roundQuotient_mem (num * 2 ^ (-f.exponentOf num den).toNat)
    (den * 2 ^ (f.exponentOf num den).toNat)).2
  exact hround.trans (Nat.div_lt_of_lt_mul hquotient)

/-- The mantissa is this power exactly from the middle on between the greatest mantissa and it. -/
theorem mantissaOf_eq_iff (hprecision : 0 < f.precision) :
    f.mantissaOf num den = 2 ^ f.precision ↔
      ((2 ^ (f.precision + 1) - 1 : Nat) : Rat) * 2 ^ (f.exponentOf num den - 1) ≤ num / den := by
  have heven : 2 ^ f.precision % 2 = 0 := by
    obtain ⟨p, hp⟩ := Nat.exists_eq_add_one.mpr hprecision
    rw [hp, Nat.pow_succ, Nat.mul_mod_left]
  have hscaled : den * 2 ^ (f.exponentOf num den).toNat ≠ 0 :=
    Nat.mul_ne_zero hden (Nat.two_pow_pos _).ne'
  have hhalf : ((2 * 2 ^ f.precision - 1 : Nat) : Rat) * 2 ^ f.exponentOf num den ≤
      (2 : Nat) * (num / den) ↔
      ((2 ^ (f.precision + 1) - 1 : Nat) : Rat) * 2 ^ (f.exponentOf num den - 1) ≤ num / den := by
    rw [zpow_sub_one₀ two_ne_zero, Nat.pow_succ, Nat.mul_comm _ 2, Nat.cast_ofNat]
    constructor <;> intro h <;> linarith
  rw [← hhalf, mul_zpow_le_iff num hden, ← le_roundQuotient_iff hscaled (Nat.two_pow_pos _) heven]
  exact ⟨fun h => h.ge, fun h => (mantissaOf_le hnum hden f).antisymm h⟩

/-- **Overflow.** A fraction lies beyond all values of a format exactly if it is no less than the
middle between the greatest of them and the power of two that follows. -/
theorem nearest_eq_none_iff (hprecision : 0 < f.precision)
    (hrange : f.minExponent ≤ f.maxExponent) :
    f.nearest num den = none ↔
      ((2 ^ (f.precision + 1) - 1 : Nat) : Rat) * 2 ^ (f.maxExponent - 1) ≤ num / den := by
  have hlog := floorLog2_spec hnum hden
  have hlt := lt_zpow_exponentOf hnum hden f
  have hmiddle := mantissaOf_eq_iff hnum hden hprecision
  have hexponent : f.exponentOf num den =
      max f.minExponent (floorLog2 num den - (f.precision - 1)) := rfl
  have hscale : (0 : Rat) < 2 ^ (f.maxExponent - 1) := zpow_pos two_pos _
  rw [nearest_of_ne_zero hnum]
  rcases lt_trichotomy (f.exponentOf num den) f.maxExponent with hless | heq | hmore
  · -- Below the greatest exponent nothing is lost, not even where the mantissa is rounded up.
    refine iff_of_false ?_ (not_le.mpr ?_)
    · rw [if_pos (show f.exponentOf num den + 1 ≤ f.maxExponent by omega), if_pos hless.le]
      split <;> exact Option.some_ne_none _
    · have hbound : 2 ^ f.precision ≤ 2 ^ (f.precision + 1) - 1 := by
        have hpos := Nat.two_pow_pos f.precision
        rw [Nat.pow_succ]
        omega
      calc (num : Rat) / den < 2 ^ (f.exponentOf num den + f.precision) := hlt
        _ ≤ 2 ^ (f.precision + (f.maxExponent - 1)) :=
            zpow_le_zpow_right₀ one_le_two (by omega)
        _ = (2 ^ f.precision : Nat) * 2 ^ (f.maxExponent - 1) := by
            rw [zpow_add₀ two_ne_zero, zpow_natCast, Nat.cast_pow, Nat.cast_ofNat]
        _ ≤ (2 ^ (f.precision + 1) - 1 : Nat) * 2 ^ (f.maxExponent - 1) := by
            gcongr
  · rw [heq] at hmiddle ⊢
    rw [← hmiddle, if_pos le_rfl, if_neg (show ¬f.maxExponent + 1 ≤ f.maxExponent by omega)]
    split
    next hm => exact iff_of_true rfl hm
    next hm => exact iff_of_false (Option.some_ne_none _) hm
  · -- Above it the fraction has too many bits before the point.
    refine iff_of_true ?_ ?_
    · rw [if_neg (show ¬f.exponentOf num den + 1 ≤ f.maxExponent by omega),
        if_neg (not_le.mpr hmore), ite_self]
    · calc ((2 ^ (f.precision + 1) - 1 : Nat) : Rat) * 2 ^ (f.maxExponent - 1) ≤
            (2 ^ (f.precision + 1) : Nat) * 2 ^ (f.maxExponent - 1) := by
            gcongr
            exact Nat.sub_le _ 1
        _ = 2 ^ (((f.precision + 1 : Nat) : Int) + (f.maxExponent - 1)) := by
            rw [zpow_add₀ two_ne_zero, zpow_natCast, Nat.cast_pow, Nat.cast_ofNat]
        _ ≤ 2 ^ floorLog2 num den := zpow_le_zpow_right₀ one_le_two (by omega)
        _ ≤ num / den := hlog.1

/-- A fraction that is a value of the format is rounded at an exponent that is not greater. -/
theorem exponentOf_le_of_value {m : Nat} {k : Int} (hvalue : (num : Rat) / den = m * 2 ^ k)
    (hm : m < 2 ^ f.precision) (hmin : f.minExponent ≤ k) : f.exponentOf num den ≤ k := by
  have hmRat : (m : Rat) < 2 ^ (f.precision : Int) := by exact_mod_cast hm
  have hlt : (2 : Rat) ^ floorLog2 num den < 2 ^ (f.precision + k) :=
    calc (2 : Rat) ^ floorLog2 num den ≤ num / den := (floorLog2_spec hnum hden).1
      _ = m * 2 ^ k := hvalue
      _ < 2 ^ (f.precision : Int) * 2 ^ k := by gcongr
      _ = 2 ^ (f.precision + k) := (zpow_add₀ two_ne_zero _ _).symm
  have hlog := (zpow_lt_zpow_iff_right₀ one_lt_two).mp hlt
  rw [exponentOf]
  omega

/-- **Exactness.** A fraction that is a value of the format is rounded to itself. -/
theorem nearest_of_value {m : Nat} {k : Int} (hvalue : (num : Rat) / den = m * 2 ^ k)
    (hm : m < 2 ^ f.precision) (hmin : f.minExponent ≤ k) (hmax : k ≤ f.maxExponent) :
    ∃ x, f.nearest num den = some x ∧ x.value = num / den := by
  have hle := exponentOf_le_of_value hnum hden hvalue hm hmin
  have hlt := lt_zpow_exponentOf hnum hden f
  have hdenRat : (den : Rat) ≠ 0 := Nat.cast_ne_zero.mpr hden
  generalize he : f.exponentOf num den = e at hle hlt
  have hsplit : (2 : Rat) ^ k = 2 ^ (k - e).toNat * 2 ^ e := by
    rw [← zpow_natCast, ← zpow_add₀ two_ne_zero]
    congr 1
    omega
  have hwhole : num * 2 ^ (-e).toNat = m * 2 ^ (k - e).toNat * (den * 2 ^ e.toNat) := by
    have hnumRat : (num : Rat) = m * (2 ^ (k - e).toNat * 2 ^ e) * den := by
      rw [← hsplit, ← hvalue, div_mul_cancel₀ _ hdenRat]
    have hcast : (num : Rat) * 2 ^ (-e).toNat = m * 2 ^ (k - e).toNat * (den * 2 ^ e.toNat) := by
      rw [hnumRat, ← zpow_mul_pow_toNat two_ne_zero e]
      ring
    exact_mod_cast hcast
  have hmantissa : f.mantissaOf num den = m * 2 ^ (k - e).toNat := by
    simp only [mantissaOf, he]
    rw [hwhole, roundQuotient_mul (Nat.mul_ne_zero hden (Nat.two_pow_pos _).ne')]
  have hvalue' : (Scaled.mk (f.mantissaOf num den) e).value = num / den := by
    rw [Scaled.value, hmantissa, hvalue, hsplit, Nat.cast_mul, Nat.cast_pow, Nat.cast_ofNat,
      mul_assoc]
  have hne : f.mantissaOf num den ≠ 2 ^ f.precision := by
    intro heq
    rw [← hvalue', Scaled.value, heq, Nat.cast_pow, Nat.cast_ofNat, ← zpow_natCast,
      ← zpow_add₀ two_ne_zero, add_comm] at hlt
    exact lt_irrefl _ hlt
  refine ⟨⟨f.mantissaOf num den, e⟩, ?_, hvalue'⟩
  rw [nearest_of_ne_zero hnum, if_neg hne, he, if_pos (hle.trans hmax)]

end Bounds

end BinaryFormat

/-! ### Values of a format -/

/-- A number has a mantissa and an exponent of a format. -/
structure Scaled.Fits (f : BinaryFormat) (x : Scaled) : Prop where
  mantissa : x.mantissa < 2 ^ f.precision
  least : f.minExponent ≤ x.exponent
  greatest : x.exponent ≤ f.maxExponent

/-- The nearest value is one of the format. -/
theorem BinaryFormat.fits_of_nearest {f : BinaryFormat} (hprecision : 0 < f.precision)
    (hrange : f.minExponent ≤ f.maxExponent) {num den : Nat} (hden : den ≠ 0) {x : Scaled}
    (h : f.nearest num den = some x) : x.Fits f := by
  by_cases hnum : num = 0
  · rw [nearest, if_pos hnum] at h
    cases h
    exact ⟨Nat.two_pow_pos _, le_rfl, hrange⟩
  · have hleast : f.minExponent ≤ f.exponentOf num den := le_max_left _ _
    have hmantissa := mantissaOf_le hnum hden f
    rw [nearest_of_ne_zero hnum] at h
    split at h
    next hm =>
      split at h
      next hle =>
        cases h
        exact ⟨Nat.pow_lt_pow_right Nat.one_lt_two (by omega), Int.le_add_one hleast, hle⟩
      next => cases h
    next hm =>
      split at h
      next hle =>
        cases h
        exact ⟨lt_of_le_of_ne hmantissa hm, hleast, hle⟩
      next => cases h

namespace Binary

variable {f g : BinaryFormat}

/-- A value is one of its format. -/
def Fits : Binary f → Prop
  | finite _ x => x.Fits f
  | _ => True

/-- A value is finite exactly if it stands for a number. -/
theorem isFinite_iff {x : Binary f} : x.isFinite = true ↔ ∃ q, x.value? = some q := by
  cases x <;> simp [isFinite, value?]

/-- What is not finite stands for no number. -/
theorem value?_eq_none_iff {x : Binary f} : x.value? = none ↔ x.isFinite = false := by
  cases x <;> simp [isFinite, value?]

/-- What a fraction is rounded to is a value of the format. -/
theorem fits_ofFraction (hprecision : 0 < f.precision) (hrange : f.minExponent ≤ f.maxExponent)
    (negative : Bool) (num : Nat) {den : Nat} (hden : den ≠ 0) :
    (ofFraction negative num den : Binary f).Fits := by
  rw [ofFraction]
  split
  next x hx => exact BinaryFormat.fits_of_nearest hprecision hrange hden hx
  next => trivial

/-- What a decimal number is rounded to is a value of the format. -/
theorem fits_ofDecimal (hprecision : 0 < f.precision) (hrange : f.minExponent ≤ f.maxExponent)
    (negative : Bool) (significand : Nat) (exponent : Int) :
    (ofDecimal negative significand exponent : Binary f).Fits := by
  simp only [ofDecimal]
  split
  · exact fits_ofFraction hprecision hrange negative 0 one_ne_zero
  · split
    · trivial
    · exact fits_ofFraction hprecision hrange negative _ (Nat.pow_pos (by decide)).ne'

/-- **Widening.** In a format with at least as many bits and exponents a value stands for the same
number. -/
theorem value?_convert (hprecision : f.precision ≤ g.precision)
    (hleast : g.minExponent ≤ f.minExponent) (hgreatest : f.maxExponent ≤ g.maxExponent)
    {x : Binary f} (h : x.Fits) : (x.convert : Binary g).value? = x.value? := by
  cases x with
  | infinite _ | nan => rfl
  | finite negative x =>
    have hfraction : (x.num : Rat) / x.den = x.value := by
      rw [div_eq_iff (Nat.cast_ne_zero.mpr x.den_pos.ne'), x.value_mul_den]
    obtain ⟨y, hy, hvalue⟩ : ∃ y, g.nearest x.num x.den = some y ∧ y.value = x.value := by
      by_cases hnum : x.num = 0
      · refine ⟨⟨0, g.minExponent⟩, by rw [BinaryFormat.nearest, if_pos hnum], ?_⟩
        rw [← hfraction, hnum, Scaled.value, Nat.cast_zero, zero_mul, zero_div]
      · rw [← hfraction]
        exact BinaryFormat.nearest_of_value hnum x.den_pos.ne' hfraction
          (h.mantissa.trans_le (Nat.pow_le_pow_right two_pos hprecision))
          (hleast.trans h.least) (h.greatest.trans hgreatest)
    simp only [convert, ofFraction, hy, value?, hvalue]

end Binary

end AgentFlow.Number
