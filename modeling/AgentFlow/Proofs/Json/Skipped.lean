import AgentFlow.Json.Skip
import AgentFlow.Proofs.Json.Values

/-!
# Passing over written values

The text of a value is passed over as a whole, whatever surrounds the value: a value without parts
in one turn, one with parts in a turn for its bracket and the turns of its parts. How deep the value
nests does not matter, for what is open is kept on a stack.
-/

namespace AgentFlow.Json

open Number

/-! ### Strings and numbers -/

/-- One turn passes over a character, be it escaped or not. -/
theorem skipChars_escapeChar (turns : Nat) (c : Char) (rest : List Char) :
    skipChars (turns + 1) (escapeChar c ++ rest) = skipChars turns rest := by
  unfold escapeChar
  split
  · rfl
  · rfl
  · rfl
  · rfl
  · rfl
  · rfl
  · rfl
  next hquote hslash _ _ _ _ _ =>
    split
    next hcontrol =>
      simp only [List.cons_append, List.nil_append, skipChars, Char.reduceEq, if_true, if_false,
        readHex4_hexDigits hcontrol, Read.ok_bind]
    next hcontrol =>
      simp only [List.singleton_append, skipChars, if_neg hquote, if_neg hslash, if_neg hcontrol]

/-- Characters are passed over up to the quote that ends them. -/
theorem skipChars_flatMap_escapeChar {cs : List Char} {turns : Nat} (hturns : cs.length < turns)
    (rest : List Char) :
    skipChars turns (cs.flatMap escapeChar ++ '"' :: rest) = .ok ((), rest) := by
  induction cs generalizing turns with
  | nil =>
    obtain ⟨turns, rfl⟩ := Nat.exists_eq_add_one.mpr hturns
    rfl
  | cons c cs ih =>
    rw [List.length_cons] at hturns
    obtain ⟨turns, rfl⟩ : ∃ k, turns = k + 1 := ⟨turns - 1, by omega⟩
    rw [List.flatMap_cons, List.append_assoc, skipChars_escapeChar, ih (by omega)]

/-- The rest of a string is passed over, its opening quote having been so. -/
theorem skipChars_stringText (s : String) (rest : List Char) :
    let text := s.toList.flatMap escapeChar ++ '"' :: rest
    skipChars text.length text = .ok ((), rest) := by
  refine skipChars_flatMap_escapeChar ?_ rest
  have hle := length_le_flatMap_escapeChar s.toList
  rw [List.length_append, List.length_cons]
  omega

/-- Digits are passed over up to where their number ends. -/
theorem skipNumber_toDigits (n : Nat) {rest : List Char} (hrest : EndsNumber rest) :
    skipNumber (Nat.toDigits 10 n ++ rest) = .ok ((), rest) := by
  have hexponent : skipExponent rest = .ok ((), rest) := by
    cases rest with
    | nil => rfl
    | cons c rest =>
      obtain ⟨-, -, hexp, hexp'⟩ := hrest c rfl
      simp only [skipExponent, hexp, hexp', or_self, if_false]
  rw [skipNumber, takeWhile_isDigit_toDigits n hrest, dropWhile_isDigit_toDigits n hrest]
  split
  next hnil => exact absurd hnil Nat.toDigits_ne_nil
  next hzero => exact absurd hzero (toDigits_ne_zero_cons n _ _)
  · split
    next r hpoint => exact absurd rfl (hrest '.' rfl).2.1
    next => exact hexponent

/-- An integer is passed over up to where it ends. -/
theorem skipFront_intText {n : Int} {c : Char} {cs rest : List Char} (htext : intText n = c :: cs)
    (open_ : List Frame) (hrest : EndsNumber rest) :
    skipFront open_ (c :: (cs ++ rest)) = .ok ((open_, true), rest) := by
  have hdigits := skipNumber_toDigits n.natAbs hrest
  rw [intText] at htext
  split at htext
  next hneg =>
    obtain ⟨rfl, rfl⟩ := List.cons.inj htext
    have hspace : isSpace '-' = false := by decide
    simp only [skipFront, skipSpace_cons hspace, Char.reduceEq, if_true, if_false, hdigits,
      Read.ok_bind, Read.pure_eq_ok]
  next hnonneg =>
    have hdigit : c.isDigit = true := by
      have hc : c ∈ Nat.toDigits 10 n.natAbs := htext ▸ List.mem_cons_self
      exact Nat.isDigit_of_mem_toDigits (by decide) (by decide) hc
    have hne {d : Char} : d.isDigit = false → c ≠ d := ne_of_isDigit hdigit
    have hother : c ≠ 'n' ∧ c ≠ 't' ∧ c ≠ 'f' ∧ c ≠ '-' :=
      ⟨hne (by decide), hne (by decide), hne (by decide), hne (by decide)⟩
    have hspace : isSpace c = false := (head_intText (.inr hdigit)).1
    rw [skipFront, skipSpace_cons hspace]
    simp only [if_neg hother.1, if_neg hother.2.1, if_neg hother.2.2.1, if_neg hother.2.2.2,
      if_pos hdigit]
    rw [← List.cons_append, ← htext, hdigits]
    rfl

/-! ### Turns -/

/-- What is left to pass over after a part. -/
def skipOn (turns : Nat) (open_ : List Frame) (comma : Bool) (cs : List Char) :
    Read (Unit × List Char) := do
  let (open_, cs) ← skipEnds open_ comma cs
  match open_ with
  | [] => return ((), cs)
  | .list :: _ => skipParts turns open_ cs
  | .object :: _ => do
    let ((), cs) ← skipKey cs
    skipParts turns open_ cs

/-- A turn passes over a value without parts, or over a bracket. -/
theorem skipParts_of_skipFront {open_ opened : List Frame} {comma : Bool} {cs rest : List Char}
    (h : skipFront open_ cs = .ok ((opened, comma), rest)) (turns : Nat) :
    skipParts (turns + 1) open_ cs = skipOn turns opened comma rest := by
  rw [skipParts, h]
  rfl

/-- Nothing is left once nothing is open. -/
theorem skipOn_nil (turns : Nat) (comma : Bool) (cs : List Char) :
    skipOn turns [] comma cs = .ok ((), cs) := rfl

/-- A bracket that closes an array ends a part of what is around it. -/
theorem skipOn_closeList (turns : Nat) (open_ : List Frame) (comma : Bool) (rest : List Char) :
    skipOn turns (.list :: open_) comma (']' :: rest) = skipOn turns open_ true rest := by
  have hend : isSpace ']' = false := by decide
  simp only [skipOn, skipEnds, skipSpace_cons hend]

/-- A brace that closes an object ends a part of what is around it. -/
theorem skipOn_closeObject (turns : Nat) (open_ : List Frame) (comma : Bool) (rest : List Char) :
    skipOn turns (.object :: open_) comma ('}' :: rest) = skipOn turns open_ true rest := by
  have hend : isSpace '}' = false := by decide
  simp only [skipOn, skipEnds, skipSpace_cons hend]

/-- The first element of an array comes right behind the bracket. -/
theorem skipOn_first {c : Char} (hspace : isSpace c = false) (hend : c ≠ ']') (turns : Nat)
    (open_ : List Frame) (rest : List Char) :
    skipOn turns (.list :: open_) false (c :: rest) =
      skipParts turns (.list :: open_) (c :: rest) := by
  have hends : skipEnds (.list :: open_) false (c :: rest) = .ok (.list :: open_, c :: rest) := by
    simp only [skipEnds, skipSpace_cons hspace]
    split <;> simp_all
  rw [skipOn, hends]
  rfl

/-- A further element of an array comes behind a comma. -/
theorem skipOn_comma (turns : Nat) (open_ : List Frame) (rest : List Char) :
    skipOn turns (.list :: open_) true (',' :: rest) =
      skipParts turns (.list :: open_) rest := by
  have hcomma : isSpace ',' = false := by decide
  simp only [skipOn, skipEnds, skipSpace_cons hcomma]
  rfl

/-- A key is passed over together with its colon. -/
theorem skipKey_stringText (k : String) (rest : List Char) :
    skipKey (stringText k ++ ':' :: rest) = .ok ((), rest) := by
  have hquote : isSpace '"' = false := by decide
  have hcolon : isSpace ':' = false := by decide
  simp only [stringText_append, skipKey, skipSpace_cons hquote, skipChars_stringText,
    Read.ok_bind, readColon, skipSpace_cons hcolon]

/-- The first member of an object comes right behind the brace. -/
theorem skipOn_firstKey (turns : Nat) (open_ : List Frame) (k : String) (rest : List Char) :
    skipOn turns (.object :: open_) false (stringText k ++ ':' :: rest) =
      skipParts turns (.object :: open_) rest := by
  have hquote : isSpace '"' = false := by decide
  have hends (cs : List Char) :
      skipEnds (.object :: open_) false ('"' :: cs) = .ok (.object :: open_, '"' :: cs) := by
    simp only [skipEnds, skipSpace_cons hquote]
    rfl
  have hkey := skipKey_stringText k rest
  rw [stringText_append] at hkey ⊢
  simp only [skipOn, hends, hkey, Read.ok_bind]

/-- A further member of an object comes behind a comma. -/
theorem skipOn_commaKey (turns : Nat) (open_ : List Frame) (k : String) (rest : List Char) :
    skipOn turns (.object :: open_) true (',' :: (stringText k ++ ':' :: rest)) =
      skipParts turns (.object :: open_) rest := by
  have hcomma : isSpace ',' = false := by decide
  have hends (cs : List Char) :
      skipEnds (.object :: open_) true (',' :: cs) = .ok (.object :: open_, cs) := by
    simp only [skipEnds, skipSpace_cons hcomma]
    rfl
  simp only [skipOn, hends, skipKey_stringText, Read.ok_bind]

/-! ### Values -/

/-- A value is passed over in some turns, no more than its text has characters. -/
def Skips (v : Json) : Prop :=
  ∃ n, n ≤ v.compact.length ∧ ∀ turns open_ rest, EndsNumber rest →
    skipParts (turns + n) open_ (v.compact ++ rest) = skipOn turns open_ true rest

/-- A value without parts is passed over in one turn. -/
theorem Skips.of_skipFront {v : Json} {c : Char} {cs : List Char} (htext : v.compact = c :: cs)
    (h : ∀ open_ rest, EndsNumber rest →
      skipFront open_ (c :: (cs ++ rest)) = .ok ((open_, true), rest)) : Skips v := by
  refine ⟨1, by simp [htext], fun turns open_ rest hrest => ?_⟩
  rw [htext, List.cons_append]
  exact skipParts_of_skipFront (h open_ rest hrest) turns

/-- The elements of an array that follow the first one are passed over. -/
theorem exists_skipOn_compactMoreItems {items : List Json} (h : ∀ v ∈ items, Skips v) :
    ∃ n, n ≤ (compactMoreItems items).length ∧ ∀ turns open_ rest,
      skipOn (turns + n) (.list :: open_) true (compactMoreItems items ++ rest) =
        skipOn turns open_ true rest := by
  induction items with
  | nil => exact ⟨0, Nat.zero_le _, fun turns open_ rest => skipOn_closeList turns open_ true rest⟩
  | cons v items ih =>
    obtain ⟨⟨n, hn, hvalue⟩, hitems⟩ := List.forall_mem_cons.mp h
    obtain ⟨m, hm, hmore⟩ := ih hitems
    refine ⟨m + n, ?_, fun turns open_ rest => ?_⟩
    · simp only [compactMoreItems, List.cons_append, List.length_cons, List.length_append]
      omega
    · simp only [compactMoreItems, List.cons_append, List.append_assoc]
      rw [skipOn_comma, ← Nat.add_assoc, hvalue _ _ _ (endsNumber_compactMoreItems items rest),
        hmore]

/-- The members of an object that follow the first one are passed over. -/
theorem exists_skipOn_compactMoreMembers {members : List (String × Json)}
    (h : ∀ m ∈ members, Skips m.2) :
    ∃ n, n ≤ (compactMoreMembers members).length ∧ ∀ turns open_ rest,
      skipOn (turns + n) (.object :: open_) true (compactMoreMembers members ++ rest) =
        skipOn turns open_ true rest := by
  induction members with
  | nil =>
    exact ⟨0, Nat.zero_le _, fun turns open_ rest => skipOn_closeObject turns open_ true rest⟩
  | cons member members ih =>
    obtain ⟨k, v⟩ := member
    obtain ⟨⟨n, (hn : n ≤ v.compact.length), hvalue⟩, hmembers⟩ := List.forall_mem_cons.mp h
    obtain ⟨m, hm, hmore⟩ := ih hmembers
    refine ⟨m + n, ?_, fun turns open_ rest => ?_⟩
    · simp only [compactMoreMembers, List.cons_append, List.length_cons, List.length_append]
      omega
    · simp only [compactMoreMembers, List.cons_append, List.append_assoc]
      rw [skipOn_commaKey, ← Nat.add_assoc,
        hvalue _ _ _ (endsNumber_compactMoreMembers members rest), hmore]

/-- An array is passed over if its elements are. -/
theorem Skips.array {items : List Json} (h : ∀ v ∈ items, v.IntegersOnly ∧ Skips v) :
    Skips (array items) := by
  have hopen (open_ : List Frame) (rest : List Char) :
      skipFront open_ ('[' :: rest) = .ok ((.list :: open_, false), rest) := rfl
  cases items with
  | nil =>
    refine ⟨1, Nat.succ_le_succ (Nat.zero_le _), fun turns open_ rest _ => ?_⟩
    exact (skipParts_of_skipFront (hopen open_ _) turns).trans
      (skipOn_closeList turns open_ false rest)
  | cons v items =>
    obtain ⟨⟨hintegers, n, hn, hvalue⟩, hitems⟩ := List.forall_mem_cons.mp h
    obtain ⟨m, hm, hmore⟩ := exists_skipOn_compactMoreItems fun v hv => (hitems v hv).2
    obtain ⟨c, cs, htext, hspace, hend⟩ := (readsBack_readValue hintegers (Nat.le_refl _)).head
    refine ⟨m + n + 1, ?_, fun turns open_ rest _ => ?_⟩
    · simp only [compact, compactItems, List.length_cons, List.length_append]
      omega
    · have hfirst (turns : Nat) (rest : List Char) :
          skipOn turns (.list :: open_) false (v.compact ++ rest) =
            skipParts turns (.list :: open_) (v.compact ++ rest) := by
        rw [htext]
        exact skipOn_first hspace hend turns open_ (cs ++ rest)
      simp only [compact, compactItems, List.cons_append, List.append_assoc]
      rw [← Nat.add_assoc, skipParts_of_skipFront (hopen open_ _), hfirst, ← Nat.add_assoc,
        hvalue _ _ _ (endsNumber_compactMoreItems items rest), hmore]

/-- An object is passed over if the values of its members are. -/
theorem Skips.object {members : List (String × Json)} (h : ∀ m ∈ members, Skips m.2) :
    Skips (object members) := by
  have hopen (open_ : List Frame) (rest : List Char) :
      skipFront open_ ('\x7b' :: rest) = .ok ((.object :: open_, false), rest) := rfl
  cases members with
  | nil =>
    refine ⟨1, Nat.succ_le_succ (Nat.zero_le _), fun turns open_ rest _ => ?_⟩
    exact (skipParts_of_skipFront (hopen open_ _) turns).trans
      (skipOn_closeObject turns open_ false rest)
  | cons member members =>
    obtain ⟨k, v⟩ := member
    obtain ⟨⟨n, (hn : n ≤ v.compact.length), hvalue⟩, hmembers⟩ := List.forall_mem_cons.mp h
    obtain ⟨m, hm, hmore⟩ := exists_skipOn_compactMoreMembers hmembers
    refine ⟨m + n + 1, ?_, fun turns open_ rest _ => ?_⟩
    · simp only [compact, compactMembers, List.length_cons, List.length_append]
      omega
    · simp only [compact, compactMembers, List.cons_append, List.append_assoc]
      rw [← Nat.add_assoc, skipParts_of_skipFront (hopen open_ _), skipOn_firstKey,
        ← Nat.add_assoc, hvalue _ _ _ (endsNumber_compactMoreMembers members rest), hmore]

/-- A value of integers is passed over. -/
theorem skips_of_integersOnly {v : Json} (h : v.IntegersOnly) : Skips v := by
  induction h with
  | null => exact .of_skipFront rfl fun open_ rest _ => rfl
  | bool b =>
    cases b with
    | true => exact .of_skipFront rfl fun open_ rest _ => rfl
    | false => exact .of_skipFront rfl fun open_ rest _ => rfl
  | @int n _ =>
    obtain ⟨c, cs, htext, -⟩ := exists_intText_eq_cons n
    exact .of_skipFront htext fun open_ rest => skipFront_intText htext open_
  | string s =>
    have htext : (string s).compact = '"' :: (s.toList.flatMap escapeChar ++ ['"']) := rfl
    refine .of_skipFront htext fun open_ rest _ => ?_
    have hspace : isSpace '"' = false := by decide
    simp only [List.append_assoc, List.singleton_append, skipFront, skipSpace_cons hspace,
      Char.reduceEq, Char.reduceIsDigit, Bool.false_eq_true, if_true, if_false,
      skipChars_stringText, Read.ok_bind, Read.pure_eq_ok]
  | array hitems ih => exact .array fun v hv => ⟨hitems v hv, ih v hv⟩
  | object _ ih => exact .object ih

/-- **Passing over.** A value of integers is passed over up to where its text ends. -/
theorem skipValue_compact {v : Json} (h : v.IntegersOnly) {rest : List Char}
    (hrest : EndsNumber rest) : skipValue (v.compact ++ rest) = .ok ((), rest) := by
  obtain ⟨n, hn, hskip⟩ := skips_of_integersOnly h
  obtain ⟨turns, hturns⟩ : ∃ turns, (v.compact ++ rest).length + 1 = turns + n := by
    rw [List.length_append]
    exact ⟨v.compact.length - n + rest.length + 1, by omega⟩
  rw [skipValue, hturns, hskip _ _ _ hrest, skipOn_nil]

end AgentFlow.Json
