import AgentFlow.Json.Printer
import AgentFlow.Json.Token

/-!
# Reading written strings

A string is written between quotes, some of its characters as escapes. Each character is read back
in one turn from what is written for it, and the quote at the end, which is never one of them, ends
the string: the text after it is left.
-/

namespace AgentFlow.Json

open Number

/-- A reading goes on with what was read, if it succeeds. -/
@[simp] theorem Read.ok_bind {α β : Type} (x : α) (f : α → Read β) :
    (Except.ok x : Read α) >>= f = f x := rfl

/-- A reading may succeed at once. -/
@[simp] theorem Read.pure_eq_ok {α : Type} (x : α) : (pure x : Read α) = .ok x := rfl

/-- A digit of base sixteen stands for its value. -/
theorem digitValue?_hexDigit : ∀ n < 16, digitValue? 16 (hexDigit n) = some n := by decide

/-- The four digits that an escape writes give the number of its character. -/
theorem readHex4_hexDigits {n : Nat} (hn : n < 0x20) (rest : List Char) :
    readHex4 ('0' :: '0' :: hexDigit (n / 16) :: hexDigit (n % 16) :: rest) = .ok (n, rest) := by
  have hzero : digitValue? 16 '0' = some 0 := by decide
  have hhigh : digitValue? 16 (hexDigit (n / 16)) = some (n / 16) :=
    digitValue?_hexDigit _ (by omega)
  have hlow : digitValue? 16 (hexDigit (n % 16)) = some (n % 16) :=
    digitValue?_hexDigit _ (by omega)
  have hdigits : ['0', '0', hexDigit (n / 16), hexDigit (n % 16)].mapM (digitValue? 16) =
      some [0, 0, n / 16, n % 16] := by
    simp [hzero, hhigh, hlow]
  have hvalue : [0, 0, n / 16, n % 16].foldl (16 * · + ·) 0 = n := by
    simp only [List.foldl_cons, List.foldl_nil]
    omega
  rw [readHex4, hdigits]
  simp only [hvalue]

/-- The escape of a control character is read as that character. -/
theorem readEscape_hexDigits {c : Char} (hc : c.toNat < 0x20) (rest : List Char) :
    readEscape ('u' :: '0' :: '0' :: hexDigit (c.toNat / 16) :: hexDigit (c.toNat % 16) :: rest) =
      .ok (c, rest) := by
  have htrailing : isTrailing c.toNat = false := by
    simp only [isTrailing, Bool.and_eq_false_iff, decide_eq_false_iff_not]
    omega
  have hleading : isLeading c.toNat = false := by
    simp only [isLeading, Bool.and_eq_false_iff, decide_eq_false_iff_not]
    omega
  simp [readEscape, readHex4_hexDigits hc, htrailing, hleading]

/-- One turn reads an escape. -/
theorem readChars_of_escape {c : Char} {cs rest : List Char} (turns : Nat)
    (h : readEscape cs = .ok (c, rest)) :
    readChars (turns + 1) ('\\' :: cs) =
      (readChars turns rest).map fun (ds, left) => (c :: ds, left) := by
  simp only [readChars, Char.reduceEq, if_false, if_true, h, Read.ok_bind, Read.pure_eq_ok]
  cases readChars turns rest <;> rfl

/-- One turn reads a character, be it escaped or not. -/
theorem readChars_escapeChar (turns : Nat) (c : Char) (rest : List Char) :
    readChars (turns + 1) (escapeChar c ++ rest) =
      (readChars turns rest).map fun (cs, left) => (c :: cs, left) := by
  unfold escapeChar
  split
  · exact readChars_of_escape turns rfl
  · exact readChars_of_escape turns rfl
  · exact readChars_of_escape turns rfl
  · exact readChars_of_escape turns rfl
  · exact readChars_of_escape turns rfl
  · exact readChars_of_escape turns rfl
  · exact readChars_of_escape turns rfl
  next hquote hslash _ _ _ _ _ =>
    split
    next hcontrol => exact readChars_of_escape turns (readEscape_hexDigits hcontrol rest)
    next hcontrol =>
      simp only [List.singleton_append, readChars, if_neg hquote, if_neg hslash, if_neg hcontrol,
        Read.pure_eq_ok]
      cases readChars turns rest <;> rfl

/-- Characters are read up to the quote that ends them, a turn for each of them and one more. -/
theorem readChars_flatMap_escapeChar {cs : List Char} {turns : Nat} (hturns : cs.length < turns)
    (rest : List Char) :
    readChars turns (cs.flatMap escapeChar ++ '"' :: rest) = .ok (cs, rest) := by
  induction cs generalizing turns with
  | nil =>
    obtain ⟨turns, rfl⟩ : ∃ k, turns = k + 1 := ⟨turns - 1, by simp at hturns; omega⟩
    rfl
  | cons c cs ih =>
    rw [List.length_cons] at hturns
    obtain ⟨turns, rfl⟩ : ∃ k, turns = k + 1 := ⟨turns - 1, by omega⟩
    rw [List.flatMap_cons, List.append_assoc, readChars_escapeChar, ih (by omega)]
    rfl

/-- An escaped character takes at least one. -/
theorem length_le_flatMap_escapeChar (cs : List Char) :
    cs.length ≤ (cs.flatMap escapeChar).length := by
  induction cs with
  | nil => exact Nat.le_refl 0
  | cons c cs ih =>
    have hpos : 0 < (escapeChar c).length := by
      unfold escapeChar
      repeat' split
      all_goals simp
    rw [List.flatMap_cons, List.length_append, List.length_cons]
    omega

/-- **Strings.** What is written for a string is read as that string, whatever follows it. -/
theorem readString_stringText (s : String) (rest : List Char) :
    readString (s.toList.flatMap escapeChar ++ '"' :: rest) = .ok (s, rest) := by
  have hturns : s.toList.length < (s.toList.flatMap escapeChar ++ '"' :: rest).length := by
    have hle := length_le_flatMap_escapeChar s.toList
    rw [List.length_append, List.length_cons]
    omega
  rw [readString, readChars_flatMap_escapeChar hturns]
  simp only [Read.ok_bind, Read.pure_eq_ok, String.ofList_toList]

/-- The text of a string is a quote, its escaped characters, and a quote. -/
theorem stringText_append (s : String) (rest : List Char) :
    stringText s ++ rest = '"' :: (s.toList.flatMap escapeChar ++ '"' :: rest) := by
  simp [stringText]

end AgentFlow.Json
