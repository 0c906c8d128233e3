import Mathlib.Data.List.Basic

/-!
# Texts as bytes

The bytes of a text are those of its characters, one after another. A byte below 128 is a character
on its own and never part of a longer one, so that texts can be searched for such characters byte by
byte. Reading the bytes of a text gives the text.
-/

namespace AgentFlow.Text

/-- The list of bytes is taken from the front to the back. -/
theorem toList_loop_eq (bytes : ByteArray) (i : Nat) (taken : List UInt8) :
    ByteArray.toList.loop bytes i taken = taken.reverse ++ bytes.data.toList.drop i := by
  fun_induction ByteArray.toList.loop bytes i taken with
  | case1 i taken h ih =>
    have hi : i < bytes.data.toList.length := by simpa using h
    rw [ih, List.drop_eq_getElem_cons hi]
    simp [ByteArray.get!, h]
  | case2 i taken h =>
    have hi : bytes.data.toList.length ≤ i := by simpa using h
    rw [List.drop_eq_nil_of_le hi, List.append_nil]

/-- The bytes of a text are those of its characters. -/
theorem toList_toUTF8 (s : String) : s.toUTF8.toList = s.toList.flatMap String.utf8EncodeChar := by
  have hdata : s.toUTF8.data.toList = s.toList.flatMap String.utf8EncodeChar := by
    conv_lhs => rw [← String.ofList_toList (s := s)]
    exact List.toList_data_toByteArray
  rw [ByteArray.toList, toList_loop_eq, List.reverse_nil, List.nil_append, List.drop_zero, hdata]

/-- A list of bytes is taken from the array that it makes up. -/
theorem mk_toList (bytes : ByteArray) : ByteArray.mk bytes.toList.toArray = bytes := by
  rw [ByteArray.toList, toList_loop_eq, List.reverse_nil, List.nil_append, List.drop_zero,
    Array.toArray_toList]

/-- The bytes of a text are read as the text. -/
theorem fromUTF8?_toUTF8 (s : String) : String.fromUTF8? s.toUTF8 = some s :=
  dif_pos s.isValidUTF8

/-- Bytes are read as a text if they are those of the text. -/
theorem fromUTF8?_eq_some_iff {bytes : ByteArray} {s : String} :
    String.fromUTF8? bytes = some s ↔ bytes = s.toUTF8 := by
  constructor
  · intro h
    rw [String.fromUTF8?] at h
    split at h
    · cases h
      rfl
    · cases h
  · rintro rfl
    exact fromUTF8?_toUTF8 s

/-- A character below 128 is one byte. -/
theorem utf8EncodeChar_of_toNat_le {c : Char} (h : c.toNat ≤ 127) :
    String.utf8EncodeChar c = [UInt8.ofNat c.toNat] := by
  have hcode : c.val.toNat = c.toNat := rfl
  simp only [String.utf8EncodeChar, hcode, if_pos h]

/-- A byte of a character is the character, or lies between 128 and the bytes that mark an order. -/
theorem of_mem_utf8EncodeChar {c : Char} {b : UInt8} (h : b ∈ String.utf8EncodeChar c) :
    b.toNat = c.toNat ∧ b.toNat < 128 ∨ 128 ≤ b.toNat ∧ b.toNat < 0xF8 := by
  have hbyte {n : Nat} (hn : n < 256) (heq : b = UInt8.ofNat n) : b.toNat = n := by
    rw [heq, UInt8.toNat_ofNat', Nat.mod_eq_of_lt hn]
  have hcode : c.val.toNat = c.toNat := rfl
  by_cases hsmall : c.toNat ≤ 127
  · rw [utf8EncodeChar_of_toNat_le hsmall, List.mem_singleton] at h
    have heq := hbyte (by omega) h
    omega
  · -- All bytes of a character that takes several are 128 and more.
    have hlong {n : Nat} (hle : 128 ≤ n) (hlt : n < 0xF8) (heq : b = UInt8.ofNat n) :
        128 ≤ b.toNat ∧ b.toNat < 0xF8 := by
      have := hbyte (by omega) heq
      omega
    refine .inr ?_
    simp only [String.utf8EncodeChar, hcode, if_neg hsmall] at h
    split at h
    next =>
      simp only [List.mem_cons, List.not_mem_nil, or_false] at h
      rcases h with h | h <;> exact hlong (by omega) (by omega) h
    next =>
      split at h
      next =>
        simp only [List.mem_cons, List.not_mem_nil, or_false] at h
        rcases h with h | h | h <;> exact hlong (by omega) (by omega) h
      next =>
        simp only [List.mem_cons, List.not_mem_nil, or_false] at h
        rcases h with h | h | h | h <;> exact hlong (by omega) (by omega) h

/-- A byte below 128 is a character on its own. -/
theorem toNat_eq_of_mem_utf8EncodeChar {c : Char} {b : UInt8} (hb : b.toNat < 128)
    (h : b ∈ String.utf8EncodeChar c) : c.toNat = b.toNat := by
  rcases of_mem_utf8EncodeChar h with ⟨heq, -⟩ | ⟨hle, -⟩
  · exact heq.symm
  · omega

end AgentFlow.Text
