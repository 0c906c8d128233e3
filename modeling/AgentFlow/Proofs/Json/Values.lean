import AgentFlow.Proofs.Json.Arrays

/-!
# Reading written values

A value whose numbers are integers of 64 bits is read back from its compact text, however its
strings and keys are spelled, if as many arrays and objects may be open at once as nest in it.
-/

namespace AgentFlow.Json

open Number

/-- The numbers of a value are integers that 64 bits hold, with a sign or without one. -/
inductive IntegersOnly : Json → Prop
  | null : IntegersOnly null
  | bool (b : Bool) : IntegersOnly (bool b)
  | int {n : Int} : IsWord n → IntegersOnly (int n)
  | string (s : String) : IntegersOnly (string s)
  | array {items : List Json} : (∀ v ∈ items, IntegersOnly v) → IntegersOnly (array items)
  | object {members : List (String × Json)} :
      (∀ m ∈ members, IntegersOnly m.2) → IntegersOnly (object members)

/-- Elements nest no deeper than a bound exactly if each of them does. -/
theorem nestingItems_le_iff {items : List Json} {depth : Nat} :
    nestingItems items ≤ depth ↔ ∀ v ∈ items, v.nesting ≤ depth := by
  induction items with
  | nil => simp [nestingItems]
  | cons v items ih => rw [nestingItems, Nat.max_le, ih, List.forall_mem_cons]

/-- Members nest no deeper than a bound exactly if the value of each of them does. -/
theorem nestingMembers_le_iff {members : List (String × Json)} {depth : Nat} :
    nestingMembers members ≤ depth ↔ ∀ m ∈ members, m.2.nesting ≤ depth := by
  induction members with
  | nil => simp [nestingMembers]
  | cons m members ih => rw [nestingMembers, Nat.max_le, ih, List.forall_mem_cons]

/-- A value without parts is read as such, however many arrays and objects may be open. -/
theorem readValue_of_scalar {c : Char} (hspace : isSpace c = false) (harray : c ≠ '[')
    (hobject : c ≠ '{') (depth : Nat) (cs : List Char) :
    readValue depth (c :: cs) = readScalar c cs := by
  cases depth with
  | zero => simp only [readValue, skipSpace_cons hspace, harray, hobject, or_self, if_false]
  | succ depth => simp only [readValue, skipSpace_cons hspace, if_neg harray, if_neg hobject]

/-- A value without parts is read back from its text, if the text does not begin like that of an
array or object. -/
theorem ReadsBack.of_scalar {v : Json} {c : Char} {cs : List Char} (htext : v.compact = c :: cs)
    (hspace : isSpace c = false) (hbrackets : c ≠ '[' ∧ c ≠ '{' ∧ c ≠ ']') (depth : Nat)
    (hread : ∀ rest, EndsNumber rest → readScalar c (cs ++ rest) = .ok (v, rest)) :
    ReadsBack (readValue depth) v v where
  read rest hrest := by
    rw [htext, List.cons_append, readValue_of_scalar hspace hbrackets.1 hbrackets.2.1,
      hread rest hrest]
  head := ⟨c, cs, htext, hspace, hbrackets.2.2⟩

/-- An integer begins with neither a blank nor a bracket. -/
theorem head_intText {c : Char} (hc : c = '-' ∨ c.isDigit = true) :
    isSpace c = false ∧ c ≠ '[' ∧ c ≠ '{' ∧ c ≠ ']' := by
  rcases hc with rfl | hdigit
  · decide
  · have hne {d : Char} : d.isDigit = false → c ≠ d := ne_of_isDigit hdigit
    have hspace : isSpace c = false := by
      simp only [isSpace, Bool.or_eq_false_iff, beq_eq_false_iff_ne]
      exact ⟨⟨⟨hne (by decide), hne (by decide)⟩, hne (by decide)⟩, hne (by decide)⟩
    exact ⟨hspace, hne (by decide), hne (by decide), hne (by decide)⟩

/-- **Reading undoes writing.** A value of integers is read back from its compact text if it nests
no deeper than is allowed. -/
theorem readsBack_readValue {v : Json} (hv : v.IntegersOnly) {depth : Nat}
    (hdepth : v.nesting ≤ depth) : ReadsBack (readValue depth) v v := by
  induction hv generalizing depth with
  | null => exact .of_scalar rfl (by decide) (by decide) depth fun rest _ => rfl
  | bool b =>
    cases b with
    | true => exact .of_scalar rfl (by decide) (by decide) depth fun rest _ => rfl
    | false => exact .of_scalar rfl (by decide) (by decide) depth fun rest _ => rfl
  | @int n hn =>
    obtain ⟨c, cs, htext, hc⟩ := exists_intText_eq_cons n
    obtain ⟨hspace, hbrackets⟩ := head_intText hc
    have hcompact : (int n).compact = c :: cs := htext
    exact .of_scalar hcompact hspace hbrackets depth fun rest => readScalar_intText hn htext
  | string s =>
    have hcompact : (string s).compact = '"' :: (s.toList.flatMap escapeChar ++ ['"']) := rfl
    refine .of_scalar hcompact (by decide) (by decide) depth fun rest _ => ?_
    simp only [List.append_assoc, List.singleton_append, readScalar, Char.reduceEq, if_true,
      if_false, readString_stringText, Read.ok_bind, Read.pure_eq_ok]
  | @array items _ ih =>
    obtain ⟨depth, rfl⟩ : ∃ k, depth = k + 1 := ⟨depth - 1, by rw [nesting] at hdepth; omega⟩
    have hitems := nestingItems_le_iff.mp (Nat.le_of_succ_le_succ hdepth)
    have hparts : List.Forall₂ (ReadsBack (readValue depth)) items items :=
      List.forall₂_same.mpr fun v hv => ih v hv (hitems v hv)
    refine ⟨fun rest _ => ?_, '[', compactItems items, rfl, by decide, by decide⟩
    rw [compact, List.cons_append, readValue, skipSpace_cons (by decide)]
    simp only [if_true, readArray_compactItems hparts, Read.ok_bind, Read.pure_eq_ok]
  | @object members _ ih =>
    obtain ⟨depth, rfl⟩ : ∃ k, depth = k + 1 := ⟨depth - 1, by rw [nesting] at hdepth; omega⟩
    have hmembers := nestingMembers_le_iff.mp (Nat.le_of_succ_le_succ hdepth)
    have hparts : List.Forall₂ (ReadsBackMember (readValue depth)) members members :=
      List.forall₂_same.mpr fun m hm => ⟨rfl, ih m hm (hmembers m hm)⟩
    refine ⟨fun rest _ => ?_, '{', compactMembers members, rfl, by decide, by decide⟩
    rw [compact, List.cons_append, readValue, skipSpace_cons (by decide)]
    simp only [Char.reduceEq, if_true, if_false, readObject_compactMembers hparts, Read.ok_bind,
      Read.pure_eq_ok]

end AgentFlow.Json
