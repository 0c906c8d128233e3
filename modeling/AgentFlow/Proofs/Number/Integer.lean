import AgentFlow.Number.Integer
import AgentFlow.Text.Blank
import Mathlib.Logic.Basic

/-!
# Reading decimal integers

The texts that are read as integers, given by a grammar: digits after an optional sign. A text is
read exactly if it is of that form and its value lies in the range asked for, and then what is read
is that value.
-/

namespace AgentFlow.Number

/-- A number as digits write it, of which there is at least one. -/
def WritesNat (cs : List Char) (n : Nat) : Prop :=
  cs ≠ [] ∧ (∀ c ∈ cs, c.isDigit = true) ∧ n = Nat.ofDigitChars 10 cs 0

/-- An integer as digits after an optional sign write it. -/
inductive WritesInt : List Char → Int → Prop
  | unsigned {ds : List Char} {n : Nat} : WritesNat ds n → WritesInt ds n
  | plus {ds : List Char} {n : Nat} : WritesNat ds n → WritesInt ('+' :: ds) n
  | minus {ds : List Char} {n : Nat} : WritesNat ds n → WritesInt ('-' :: ds) (-n)

/-- The integers of a range are those between its ends. -/
theorem IntRange.contains_iff {r : IntRange} {n : Int} :
    r.contains n = true ↔ r.least ≤ n ∧ n ≤ r.greatest := by
  simp only [contains, Bool.and_eq_true, decide_eq_true_eq]

/-- An integer beyond the greatest one of a range is taken for that. -/
theorem IntRange.clamp_of_greatest_le {r : IntRange} {n : Int} (h : r.greatest ≤ n) :
    r.clamp n = r.greatest := by
  simp only [clamp]
  omega

/-- An integer below the least one of a range is taken for that. -/
theorem IntRange.clamp_of_le_least {r : IntRange} {n : Int} (hr : r.least ≤ r.greatest)
    (h : n ≤ r.least) : r.clamp n = r.least := by
  simp only [clamp]
  omega

/-- Of two integers the lesser one stays less, unless both lie beyond the same end of a range. -/
theorem IntRange.clamp_lt_clamp {r : IntRange} {m n : Int} (hr : r.least < r.greatest) (h : m < n)
    (hm : m < r.greatest) (hn : r.least < n) : r.clamp m < r.clamp n := by
  simp only [clamp]
  omega

/-- Characters are compared by their code points. -/
theorem char_le_iff {a b : Char} : a ≤ b ↔ a.toNat ≤ b.toNat := by
  rw [Char.le_def, UInt32.le_iff_toNat_le]
  rfl

/-- The digits of base ten are the decimal ones. -/
theorem digitValue?_ten (c : Char) :
    digitValue? 10 c = if c.isDigit = true then some (c.toNat - '0'.toNat) else none := by
  have hdigit : c.isDigit = true ↔ '0' ≤ c ∧ c ≤ '9' := by
    rw [Char.isDigit_iff_toNat, char_le_iff, char_le_iff]
  simp only [digitValue?, hdigit]
  by_cases h : '0' ≤ c ∧ c ≤ '9'
  · have hlt : c.toNat - '0'.toNat < 10 := by
      have hnine := char_le_iff.mp h.2
      simp only [Char.reduceToNat] at hnine ⊢
      omega
    simp only [h, and_self, if_true, Option.filter_some, hlt, decide_true]
  · rw [if_neg h, if_neg h]
    split
    · simp only [Option.filter_some]
      exact if_neg (by simp)
    · split
      · simp only [Option.filter_some]
        exact if_neg (by simp)
      · rfl

/-- A number that is read on by one digit of base ten. -/
def readDigit (n? : Option Nat) (c : Char) : Option Nat := do
  return (← n?) * 10 + (← digitValue? 10 c)

/-- A digit is put behind the number read before it. -/
theorem readDigit_of_isDigit {c : Char} (hc : c.isDigit = true) (m : Nat) :
    readDigit (some m) c = some (10 * m + (c.toNat - '0'.toNat)) := by
  rw [readDigit, digitValue?_ten, if_pos hc, Nat.mul_comm]
  rfl

/-- A number does not go on with any other character. -/
theorem readDigit_of_not_isDigit {c : Char} (hc : ¬ c.isDigit = true) (n? : Option Nat) :
    readDigit n? c = none := by
  rw [readDigit, digitValue?_ten, if_neg hc]
  cases n? <;> rfl

/-- After a character that is no digit nothing is read any more. -/
theorem foldl_readDigit_none (cs : List Char) : cs.foldl readDigit none = none := by
  induction cs with
  | nil => rfl
  | cons c rest ih => exact ih

/-- Characters continue a number exactly if all of them are digits. -/
theorem foldl_readDigit_eq_some_iff {cs : List Char} {m n : Nat} :
    cs.foldl readDigit (some m) = some n ↔
      (∀ c ∈ cs, c.isDigit = true) ∧ n = Nat.ofDigitChars 10 cs m := by
  induction cs generalizing m with
  | nil =>
    rw [List.foldl_nil, Nat.ofDigitChars_nil, Option.some.injEq, eq_comm (a := m)]
    simp
  | cons c rest ih =>
    rw [List.foldl_cons, List.forall_mem_cons]
    by_cases hc : c.isDigit = true
    · rw [readDigit_of_isDigit hc, ih, Nat.ofDigitChars_cons]
      simp only [hc, true_and]
    · rw [readDigit_of_not_isDigit hc, foldl_readDigit_none]
      simp [hc]

/-- What is read as a number is what digits write. -/
theorem readNat?_ten_eq_some_iff {cs : List Char} {n : Nat} :
    readNat? 10 cs = some n ↔ WritesNat cs n := by
  cases cs with
  | nil => simp [readNat?, WritesNat]
  | cons c rest =>
    have hfold : readNat? 10 (c :: rest) = (c :: rest).foldl readDigit (some 0) := rfl
    rw [hfold, foldl_readDigit_eq_some_iff, WritesNat]
    exact ⟨fun h => ⟨List.cons_ne_nil c rest, h⟩, fun h => h.2⟩

/-- Digits begin with no sign. -/
theorem WritesNat.head_ne {c d : Char} {rest : List Char} {n : Nat} (h : WritesNat (c :: rest) n)
    (hd : d.isDigit = false) : c ≠ d := by
  rintro rfl
  rw [h.2.1 c List.mem_cons_self] at hd
  cases hd

/-- What writes an integer is digits, behind a sign or none. -/
theorem WritesInt.isDigit_or_sign {cs : List Char} {n : Int} (h : WritesInt cs n) :
    ∀ c ∈ cs, c.isDigit = true ∨ c = '+' ∨ c = '-' := by
  cases h with
  | unsigned hds => exact fun c hc => .inl (hds.2.1 c hc)
  | plus hds =>
    exact List.forall_mem_cons.mpr ⟨.inr (.inl rfl), fun c hc => .inl (hds.2.1 c hc)⟩
  | minus hds =>
    exact List.forall_mem_cons.mpr ⟨.inr (.inr rfl), fun c hc => .inl (hds.2.1 c hc)⟩

/-- The characters of an integer are no blanks. -/
theorem WritesInt.not_isBlank {cs : List Char} {n : Int} (h : WritesInt cs n) :
    ∀ c ∈ cs, Text.isBlank c = false := by
  intro c hc
  rcases h.isDigit_or_sign c hc with hdigit | rfl | rfl
  · exact Text.not_isBlank_of_isDigit hdigit
  · decide
  · decide

/-- What is read as an integer of a range that goes below zero is what digits after an optional sign
write, if it lies in the range. -/
theorem readInt?_eq_some_iff {r : IntRange} {cs : List Char} {n : Int} (hr : r.least < 0) :
    readInt? r cs = some n ↔ WritesInt cs n ∧ r.contains n = true := by
  unfold readInt? readIntBase?
  rw [Option.filter_eq_some_iff]
  refine and_congr_left fun _ => ⟨fun h => ?_, fun h => ?_⟩
  · split at h
    · obtain ⟨m, hm, rfl⟩ := Option.map_eq_some_iff.mp h
      exact .plus (readNat?_ten_eq_some_iff.mp hm)
    · rw [if_pos hr] at h
      obtain ⟨m, hm, rfl⟩ := Option.map_eq_some_iff.mp h
      exact .minus (readNat?_ten_eq_some_iff.mp hm)
    · obtain ⟨m, hm, rfl⟩ := Option.map_eq_some_iff.mp h
      exact .unsigned (readNat?_ten_eq_some_iff.mp hm)
  · cases h with
    | plus hm => simp [readNat?_ten_eq_some_iff.mpr hm]
    | minus hm => simp [readNat?_ten_eq_some_iff.mpr hm, hr]
    | @unsigned _ m hm =>
      split
      · exact absurd rfl (hm.head_ne (by decide))
      · exact absurd rfl (hm.head_ne (by decide))
      · simp [readNat?_ten_eq_some_iff.mpr hm]

end AgentFlow.Number
