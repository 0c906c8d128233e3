import AgentFlow.Json.Printer
import AgentFlow.Json.Reader
import AgentFlow.Proofs.Json.Numbers
import AgentFlow.Proofs.Number.Integer
import Mathlib.Data.List.TakeWhile

/-!
# Reading written integers

An integer is written in decimal, without zeros in front. If 64 bits hold it, it is read back from
its digits and stays an integer; a number ends before the first character that cannot continue it.
-/

namespace AgentFlow.Json

open Number

/-- No digits, point or exponent come next, so that a number written before has ended. -/
def EndsNumber (rest : List Char) : Prop :=
  ∀ c, rest.head? = some c → c.isDigit = false ∧ c ≠ '.' ∧ c ≠ 'e' ∧ c ≠ 'E'

/-- A number does not begin with a zero unless it is zero. -/
theorem head?_toDigits_ne_zero {n : Nat} (hn : n ≠ 0) : (Nat.toDigits 10 n).head? ≠ some '0' := by
  induction n using Nat.strongRecOn with
  | ind n ih =>
    rw [Nat.toDigits_eq_if (by decide)]
    split
    · simpa using hn
    next hlarge =>
      have hshorter := ih (n / 10) (by omega) (by omega)
      have hne : Nat.toDigits 10 (n / 10) ≠ [] := Nat.toDigits_ne_nil
      obtain ⟨c, ds, hdigits⟩ := List.exists_cons_of_ne_nil hne
      rw [hdigits] at hshorter ⊢
      exact hshorter

/-- Digits are taken in full if their number is below `2 ^ 64`: so are all numbers on the way. -/
theorem takeDigits_of_lt {ds : List Char} {m : Nat}
    (hlt : Nat.ofDigitChars 10 ds m < 0x10000000000000000) :
    takeDigits m ds = (Nat.ofDigitChars 10 ds m, []) := by
  induction ds generalizing m with
  | nil => rfl
  | cons c rest ih =>
    rw [Nat.ofDigitChars_cons] at hlt ⊢
    have hle (k : Nat) (cs : List Char) : k ≤ Nat.ofDigitChars 10 cs k := by
      induction cs generalizing k with
      | nil => exact Nat.le_refl k
      | cons d cs ihd =>
        rw [Nat.ofDigitChars_cons]
        exact Nat.le_trans (by omega) (ihd _)
    have hnext := hle (10 * m + (c.toNat - '0'.toNat)) rest
    rw [takeDigits]
    simp only [Nat.mul_comm m 10]
    rw [if_pos (by omega), ih hlt]

section Digits

variable (n : Nat) {rest : List Char} (hrest : EndsNumber rest)
include hrest

/-- The digits of a number are all that are there up to where it ends. -/
theorem takeWhile_isDigit_toDigits :
    (Nat.toDigits 10 n ++ rest).takeWhile Char.isDigit = Nat.toDigits 10 n := by
  rw [List.takeWhile_append_of_pos fun _ hc =>
    Nat.isDigit_of_mem_toDigits (by decide) (by decide) hc]
  cases rest with
  | nil => simp
  | cons c rest => simp [hrest c rfl]

/-- Behind the digits of a number is what follows it. -/
theorem dropWhile_isDigit_toDigits :
    (Nat.toDigits 10 n ++ rest).dropWhile Char.isDigit = rest := by
  rw [List.dropWhile_append_of_pos fun _ hc =>
    Nat.isDigit_of_mem_toDigits (by decide) (by decide) hc]
  cases rest with
  | nil => rfl
  | cons c rest => simp [hrest c rfl]

end Digits

/-- A zero in front of other digits is no number, but none is written that way. -/
theorem toDigits_ne_zero_cons (n : Nat) (c : Char) (cs : List Char) :
    Nat.toDigits 10 n ≠ '0' :: c :: cs := by
  intro hzero
  by_cases hn : n = 0
  · simp [hn] at hzero
  · exact absurd (congrArg List.head? hzero) (head?_toDigits_ne_zero hn)

/-- A number of 64 bits is read from its digits up to where it ends. -/
theorem readNumber_toDigits {n : Nat} (hn : n < 0x10000000000000000) (negative : Bool)
    {rest : List Char} (hrest : EndsNumber rest) :
    readNumber negative (Nat.toDigits 10 n ++ rest) = .ok (finishInteger negative n, rest) := by
  have hvalue : takeDigits 0 (Nat.toDigits 10 n) = (n, []) := by
    have hread := Nat.ofDigitChars_ten_toDigits (n := n)
    rw [takeDigits_of_lt (by omega), hread]
  rw [readNumber, takeWhile_isDigit_toDigits n hrest, dropWhile_isDigit_toDigits n hrest]
  split
  next hnil => exact absurd hnil Nat.toDigits_ne_nil
  next hzero => exact absurd hzero (toDigits_ne_zero_cons n _ _)
  · rw [hvalue]
    cases rest with
    | nil => rfl
    | cons c rest =>
      obtain ⟨_, hpoint, hexp, hexp'⟩ := hrest c rfl
      simp [hpoint, hexp, hexp']

/-- A digit differs from every character that is none. -/
theorem ne_of_isDigit {c d : Char} (hc : c.isDigit = true) (hd : d.isDigit = false) : c ≠ d := by
  rintro rfl
  rw [hc] at hd
  cases hd

/-- The first character of an integer is a digit or the sign. -/
theorem exists_intText_eq_cons (n : Int) :
    ∃ c cs, intText n = c :: cs ∧ (c = '-' ∨ c.isDigit = true) := by
  rw [intText]
  split
  · exact ⟨'-', _, rfl, .inl rfl⟩
  · obtain ⟨c, cs, hdigits⟩ :=
      List.exists_cons_of_ne_nil (Nat.toDigits_ne_nil (n := n.natAbs) (b := 10))
    have hc : c ∈ Nat.toDigits 10 n.natAbs := hdigits ▸ List.mem_cons_self
    exact ⟨c, cs, hdigits, .inr (Nat.isDigit_of_mem_toDigits (by decide) (by decide) hc)⟩

/-- The decimal text of an integer writes it. -/
theorem writesInt_intText (n : Int) : WritesInt (intText n) n := by
  have hdigits : WritesNat (Nat.toDigits 10 n.natAbs) n.natAbs := by
    refine ⟨Nat.toDigits_ne_nil, fun c hc => ?_, Nat.ofDigitChars_ten_toDigits.symm⟩
    exact Nat.isDigit_of_mem_toDigits (by decide) (by decide) hc
  rw [intText]
  split
  next hneg =>
    have hn : n = -(n.natAbs : Int) := by omega
    rw [hn]
    simpa only [Int.natAbs_neg, Int.natAbs_natCast] using .minus hdigits
  next hnonneg =>
    have hn : n = (n.natAbs : Int) := by omega
    rw [hn]
    exact .unsigned hdigits

/-- **Integers.** What is written for an integer of a word is read as that integer. -/
theorem readScalar_intText {n : Int} (hn : IsWord n) {c : Char} {cs rest : List Char}
    (htext : intText n = c :: cs) (hrest : EndsNumber rest) :
    readScalar c (cs ++ rest) = .ok (int n, rest) := by
  have hword : -0x8000000000000000 ≤ n ∧ n ≤ 0xFFFFFFFFFFFFFFFF := by
    rcases hn with hn | hn
    · have h := IntRange.contains_iff.mp hn
      simp only [IntRange.int64] at h
      omega
    · have h := IntRange.contains_iff.mp hn
      simp only [IntRange.uint64] at h
      omega
  have hread (negative : Bool) := readNumber_toDigits (n := n.natAbs) (by omega) negative hrest
  rw [intText] at htext
  split at htext
  next hneg =>
    obtain ⟨rfl, rfl⟩ := List.cons.inj htext
    have hinteger : finishInteger true n.natAbs = int n := by
      have hbound : ¬ (n.natAbs = 0 ∨ 0x8000000000000000 < n.natAbs) := by omega
      simp only [finishInteger, Bool.not_true, Bool.false_eq_true, if_false, if_neg hbound]
      congr 1
      omega
    rw [← hinteger, ← hread true]
    rfl
  next hnonneg =>
    have hinteger : finishInteger false n.natAbs = int n := by
      simp only [finishInteger, Bool.not_false, if_true]
      congr 1
      omega
    have hdigit : c.isDigit = true := by
      have hc : c ∈ Nat.toDigits 10 n.natAbs := htext ▸ List.mem_cons_self
      exact Nat.isDigit_of_mem_toDigits (by decide) (by decide) hc
    have hne {d : Char} : d.isDigit = false → c ≠ d := ne_of_isDigit hdigit
    have hother : c ≠ 'n' ∧ c ≠ 't' ∧ c ≠ 'f' ∧ c ≠ '"' ∧ c ≠ '-' :=
      ⟨hne (by decide), hne (by decide), hne (by decide), hne (by decide), hne (by decide)⟩
    rw [readScalar, if_neg hother.1, if_neg hother.2.1, if_neg hother.2.2.1,
      if_neg hother.2.2.2.1, if_neg hother.2.2.2.2, if_pos hdigit, ← List.cons_append, ← htext,
      hread false, hinteger]

end AgentFlow.Json
