import AgentFlow.Proofs.Json.Integers
import AgentFlow.Proofs.Json.Strings
import Mathlib.Data.List.Forall2

/-!
# Reading written arrays and objects

Arrays and objects are read with any reader for their parts. If that reader reads something back
from the text of each part, up to where a number would end, then the array or object is read back
from its text as a whole, whatever follows it.
-/

namespace AgentFlow.Json

variable {α : Type}

/-- A reader reads back `x` from the text of `v`, if what follows would end a number. The text
begins with neither a blank nor the end of an array. -/
structure ReadsBack (one : List Char → Read (α × List Char)) (x : α) (v : Json) : Prop where
  read (rest : List Char) : EndsNumber rest → one (v.compact ++ rest) = .ok (x, rest)
  head : ∃ c cs, v.compact = c :: cs ∧ isSpace c = false ∧ c ≠ ']'

/-- A reader reads back a member: its key as it is, and something from the text of its value. -/
def ReadsBackMember (one : List Char → Read (α × List Char)) (x : String × α)
    (m : String × Json) : Prop :=
  x.1 = m.1 ∧ ReadsBack one x.2 m.2

/-- Blanks are skipped only where there are some. -/
theorem skipSpace_cons {c : Char} (hc : isSpace c = false) (cs : List Char) :
    skipSpace (c :: cs) = c :: cs := by
  rw [skipSpace, List.dropWhile_cons_of_neg (by simp [hc])]

/-- A character that is no part of a number ends one. -/
theorem endsNumber_cons {c : Char} (cs : List Char)
    (hc : c.isDigit = false ∧ c ≠ '.' ∧ c ≠ 'e' ∧ c ≠ 'E') : EndsNumber (c :: cs) := by
  intro d hd
  cases hd
  exact hc

/-- A reading that succeeds has no fault to place. -/
@[simp] theorem Read.within_ok (s : Segment) (x : α) : Read.within s (.ok x) = .ok x := rfl

/-! ### Arrays -/

section Arrays

variable {one : List Char → Read (α × List Char)} {x : α} {xs : List α} {v : Json}
  {items : List Json} {turns : Nat}

/-- What follows an element ends a number: it is a comma or the end of the array. -/
theorem endsNumber_compactMoreItems (items : List Json) (rest : List Char) :
    EndsNumber (compactMoreItems items ++ rest) := by
  cases items with
  | nil => exact endsNumber_cons rest (by decide)
  | cons v items => exact endsNumber_cons _ (by decide)

/-- An element is the next one where its text comes first. -/
theorem nextElement_first (h : ReadsBack one x v) (rest : List Char) :
    nextElement true (v.compact ++ rest) = .ok (true, v.compact ++ rest) := by
  obtain ⟨c, cs, htext, hspace, hend⟩ := h.head
  simp only [htext, List.cons_append, nextElement, skipSpace_cons hspace, if_neg hend, if_true]

/-- An element is the next one where its text comes after a comma. -/
theorem nextElement_comma (h : ReadsBack one x v) (rest : List Char) :
    nextElement false (',' :: (v.compact ++ rest)) = .ok (true, v.compact ++ rest) := by
  obtain ⟨c, cs, htext, hspace, hend⟩ := h.head
  have hcomma : isSpace ',' = false := by decide
  simp only [htext, List.cons_append, nextElement, skipSpace_cons hcomma, skipSpace_cons hspace,
    Char.reduceEq, if_neg hend, if_true, if_false, Bool.false_eq_true]

/-- No element is left before the end of an array. -/
theorem nextElement_end (first : Bool) (rest : List Char) :
    nextElement first (']' :: rest) = .ok (false, ']' :: rest) := by
  have hend : isSpace ']' = false := by decide
  simp only [nextElement, skipSpace_cons hend, if_true]

/-- An element is read in one turn, and the further ones in those that are left. -/
theorem readElements_cons {cs cs₁ cs₂ rest : List Char} {index : Nat}
    (hnext : nextElement (index == 0) cs = .ok (true, cs₁)) (hread : one cs₁ = .ok (x, cs₂))
    (hmore : readElements one turns (index + 1) cs₂ = .ok (xs, rest)) :
    readElements one (turns + 1) index cs = .ok (x :: xs, rest) := by
  simp only [readElements, hnext, hread, hmore, Read.within_ok, Read.ok_bind, Read.pure_eq_ok,
    if_true]

/-- The end of an array takes a turn. -/
theorem readElements_end (index : Nat) (rest : List Char) :
    readElements one (turns + 1) index (']' :: rest) = .ok ([], ']' :: rest) := by
  simp only [readElements, nextElement_end, Read.within_ok, Read.ok_bind, Read.pure_eq_ok,
    Bool.false_eq_true, if_false]

/-- The elements after the first one are read back, a turn for each and one for the end. -/
theorem readElements_compactMoreItems (h : List.Forall₂ (ReadsBack one) xs items)
    (hturns : items.length < turns) {index : Nat} (hindex : index ≠ 0) (rest : List Char) :
    readElements one turns index (compactMoreItems items ++ rest) = .ok (xs, ']' :: rest) := by
  induction h generalizing turns index with
  | nil =>
    obtain ⟨turns, rfl⟩ := Nat.exists_eq_add_one.mpr hturns
    exact readElements_end index rest
  | @cons x v xs items hx _ ih =>
    obtain ⟨turns, rfl⟩ := Nat.exists_eq_add_one.mpr (Nat.zero_lt_of_lt hturns)
    have hlater : (index == 0) = false := by simpa using hindex
    simp only [compactMoreItems, List.cons_append, List.append_assoc]
    apply readElements_cons
    · rw [hlater]
      exact nextElement_comma hx _
    · exact hx.read _ (endsNumber_compactMoreItems items rest)
    · exact ih (Nat.lt_of_succ_lt_succ hturns) (Nat.succ_ne_zero index)

/-- The elements of an array are read back. -/
theorem readElements_compactItems (h : List.Forall₂ (ReadsBack one) xs items)
    (hturns : items.length < turns) (rest : List Char) :
    readElements one turns 0 (compactItems items ++ rest) = .ok (xs, ']' :: rest) := by
  obtain ⟨turns, rfl⟩ := Nat.exists_eq_add_one.mpr (Nat.zero_lt_of_lt hturns)
  cases h with
  | nil => exact readElements_end 0 rest
  | @cons x v xs items hx hxs =>
    rw [compactItems, List.append_assoc]
    apply readElements_cons
    · exact nextElement_first hx _
    · exact hx.read _ (endsNumber_compactMoreItems items rest)
    · exact readElements_compactMoreItems hxs (Nat.lt_of_succ_lt_succ hturns) (by decide) rest

/-- Each further element takes a comma at least, and a bracket ends them. -/
theorem length_lt_compactMoreItems (items : List Json) :
    items.length < (compactMoreItems items).length := by
  induction items with
  | nil => exact Nat.zero_lt_one
  | cons v items ih =>
    simp only [compactMoreItems, List.cons_append, List.length_cons, List.length_append]
    omega

/-- There are no more elements than characters. -/
theorem length_le_compactItems (items : List Json) :
    items.length ≤ (compactItems items).length := by
  cases items with
  | nil => exact Nat.zero_le _
  | cons v items =>
    have hmore := length_lt_compactMoreItems items
    simp only [compactItems, List.length_cons, List.length_append]
    omega

/-- **Arrays.** An array is read back from its text if its elements are. -/
theorem readArray_compactItems (h : List.Forall₂ (ReadsBack one) xs items) (rest : List Char) :
    readArray one (compactItems items ++ rest) = .ok (xs, rest) := by
  have hturns : items.length < (compactItems items ++ rest).length + 1 := by
    have hle := length_le_compactItems items
    rw [List.length_append]
    omega
  have hend : skipSpace (']' :: rest) = ']' :: rest := skipSpace_cons (by decide) rest
  rw [readArray, readElements_compactItems h hturns]
  simp only [finishArray, closeArray, hend]

end Arrays

/-! ### Objects -/

section Objects

variable {one : List Char → Read (α × List Char)} {x : α} {xs : List (String × α)}
  {members : List (String × Json)} {turns : Nat}

/-- What follows a member ends a number: it is a comma or the end of the object. -/
theorem endsNumber_compactMoreMembers (members : List (String × Json)) (rest : List Char) :
    EndsNumber (compactMoreMembers members ++ rest) := by
  cases members with
  | nil => exact endsNumber_cons rest (by decide)
  | cons m members => exact endsNumber_cons _ (by decide)

/-- A key is the next one where its text comes first. -/
theorem nextKey_first (k : String) (rest : List Char) :
    nextKey true (stringText k ++ rest) =
      .ok (true, k.toList.flatMap escapeChar ++ '"' :: rest) := by
  have hquote : isSpace '"' = false := by decide
  simp only [stringText_append, nextKey, skipSpace_cons hquote, Char.reduceEq, if_true, if_false]

/-- A key is the next one where its text comes after a comma. -/
theorem nextKey_comma (k : String) (rest : List Char) :
    nextKey false (',' :: (stringText k ++ rest)) =
      .ok (true, k.toList.flatMap escapeChar ++ '"' :: rest) := by
  have hcomma : isSpace ',' = false := by decide
  have hquote : isSpace '"' = false := by decide
  simp only [stringText_append, nextKey, skipSpace_cons hcomma, skipSpace_cons hquote,
    Char.reduceEq, if_true, if_false, Bool.false_eq_true]

/-- A key is read up to the value of its member. -/
theorem readKey_stringText (k : String) (rest : List Char) :
    readKey (k.toList.flatMap escapeChar ++ '"' :: ':' :: rest) = .ok (k, rest) := by
  have hcolon : skipSpace (':' :: rest) = ':' :: rest := skipSpace_cons (by decide) rest
  simp only [readKey, readString_stringText, readColon, hcolon, Read.within_ok, Read.ok_bind,
    Read.pure_eq_ok]

/-- A member is read in one turn, and the further ones in those that are left. -/
theorem readMembers_cons {first : Bool} {k : String} {cs cs₁ cs₂ rest : List Char}
    (hnext : nextKey first cs = .ok (true, k.toList.flatMap escapeChar ++ '"' :: ':' :: cs₁))
    (hread : one cs₁ = .ok (x, cs₂)) (hmore : readMembers one turns false cs₂ = .ok (xs, rest)) :
    readMembers one (turns + 1) first cs = .ok ((k, x) :: xs, rest) := by
  simp only [readMembers, hnext, readKey_stringText, hread, hmore, Read.within_ok, Read.ok_bind,
    Read.pure_eq_ok, if_true]

/-- The end of an object takes a turn. -/
theorem readMembers_end (first : Bool) (rest : List Char) :
    readMembers one (turns + 1) first ('}' :: rest) = .ok ([], '}' :: rest) := by
  have hend : isSpace '}' = false := by decide
  simp only [readMembers, nextKey, skipSpace_cons hend, Read.ok_bind, Read.pure_eq_ok,
    Bool.false_eq_true, if_false, if_true]

/-- The members after the first one are read back, a turn for each and one for the end. -/
theorem readMembers_compactMoreMembers (h : List.Forall₂ (ReadsBackMember one) xs members)
    (hturns : members.length < turns) (rest : List Char) :
    readMembers one turns false (compactMoreMembers members ++ rest) = .ok (xs, '}' :: rest) := by
  induction h generalizing turns with
  | nil =>
    obtain ⟨turns, rfl⟩ := Nat.exists_eq_add_one.mpr hturns
    exact readMembers_end false rest
  | @cons x m xs members hx _ ih =>
    obtain ⟨turns, rfl⟩ := Nat.exists_eq_add_one.mpr (Nat.zero_lt_of_lt hturns)
    obtain ⟨hkey, hvalue⟩ := hx
    rw [compactMoreMembers, ← hkey]
    simp only [List.cons_append, List.append_assoc]
    apply readMembers_cons
    · exact nextKey_comma x.1 _
    · exact hvalue.read _ (endsNumber_compactMoreMembers members rest)
    · exact ih (Nat.lt_of_succ_lt_succ hturns)

/-- The members of an object are read back. -/
theorem readMembers_compactMembers (h : List.Forall₂ (ReadsBackMember one) xs members)
    (hturns : members.length < turns) (rest : List Char) :
    readMembers one turns true (compactMembers members ++ rest) = .ok (xs, '}' :: rest) := by
  obtain ⟨turns, rfl⟩ := Nat.exists_eq_add_one.mpr (Nat.zero_lt_of_lt hturns)
  cases h with
  | nil => exact readMembers_end true rest
  | @cons x m xs members hx hxs =>
    obtain ⟨hkey, hvalue⟩ := hx
    rw [compactMembers, ← hkey]
    simp only [List.cons_append, List.append_assoc]
    apply readMembers_cons
    · exact nextKey_first x.1 _
    · exact hvalue.read _ (endsNumber_compactMoreMembers members rest)
    · exact readMembers_compactMoreMembers hxs (Nat.lt_of_succ_lt_succ hturns) rest

/-- Each further member takes a comma at least, and a brace ends them. -/
theorem length_lt_compactMoreMembers (members : List (String × Json)) :
    members.length < (compactMoreMembers members).length := by
  induction members with
  | nil => exact Nat.zero_lt_one
  | cons m members ih =>
    simp only [compactMoreMembers, List.cons_append, List.length_cons, List.length_append]
    omega

/-- There are no more members than characters. -/
theorem length_le_compactMembers (members : List (String × Json)) :
    members.length ≤ (compactMembers members).length := by
  cases members with
  | nil => exact Nat.zero_le _
  | cons m members =>
    have hmore := length_lt_compactMoreMembers members
    simp only [compactMembers, List.length_cons, List.length_append]
    omega

/-- **Objects.** An object is read back from its text if its members are. -/
theorem readObject_compactMembers (h : List.Forall₂ (ReadsBackMember one) xs members)
    (rest : List Char) : readObject one (compactMembers members ++ rest) = .ok (xs, rest) := by
  have hturns : members.length < (compactMembers members ++ rest).length + 1 := by
    have hle := length_le_compactMembers members
    rw [List.length_append]
    omega
  have hend : skipSpace ('}' :: rest) = '}' :: rest := skipSpace_cons (by decide) rest
  rw [readObject, readMembers_compactMembers h hturns]
  simp only [finishObject, closeObject, hend]

end Objects

end AgentFlow.Json
