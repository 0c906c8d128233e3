import AgentFlow.Codec.Basic
import AgentFlow.Proofs.Json.Canonical
import AgentFlow.Proofs.Json.Values
import AgentFlow.Proofs.SortedMap

/-!
# Reading back what is written

A codec gives back a value if it reads it from the text that is written for it, and from the value
itself when that has been put aside. Strings, integers of 64 bits, values that may be missing, lists
and maps are given back if their parts are.
-/

namespace AgentFlow

open Json Number

variable {α : Type}

/-- Leaves are read as values without parts are. -/
theorem Codec.readLeaf_of_readValue {interpret : Json → Except Mismatch α} {cs rest : List Char}
    {v : Json} {x : α} (hread : readValue 0 cs = .ok (v, rest)) (hx : interpret v = .ok x) :
    readLeaf interpret cs = .ok (x, rest) := by
  rw [readValue] at hread
  rw [readLeaf]
  cases hskip : skipSpace cs with
  | nil => simp only [hskip, reduceCtorEq] at hread
  | cons c r =>
    simp only [hskip] at hread ⊢
    split at hread
    · cases hread
    next hbracket => rw [if_neg hbracket, hread, Read.ok_bind]; simp only [hx, Read.pure_eq_ok]

/-- A codec gives back a value from what it writes for it, if arrays and objects may be open `n` at
once: from the text, and from the value. What is written nests no deeper, and its numbers are
integers, so that it may be put aside as well. -/
structure Codec.GivesBack (c : Codec α) (n : Nat) (x : α) : Prop where
  integersOnly : (c.write x).IntegersOnly
  nesting : (c.write x).nesting ≤ n
  read : ReadsBack (c.read n) x (c.write x)
  ofJson (origin : Origin) : c.ofJson origin (c.write x) = .ok x

namespace Codec

/-- The text that is written for a value. -/
def textOf (c : Codec α) (x : α) : String := (c.write x).compactText

/-- A whole text is read as what is read back from the value that it writes. -/
theorem parse_compactText {c : Codec α} {x : α} {v : Json}
    (h : ReadsBack (c.read Json.maxNesting) x v) : c.parse v.compactText = .ok x := by
  have hread := h.read [] nofun
  rw [List.append_nil] at hread
  rw [parse, compactText, String.toList_ofList, readWhole, hread]
  rfl

/-- The text that is written for a value is read back. -/
theorem parse_textOf {c : Codec α} {x : α} (h : ReadsBack (c.read Json.maxNesting) x (c.write x)) :
    c.parse (c.textOf x) = .ok x :=
  parse_compactText h

/-- A value without parts is given back if what is written for it has none and is taken for it. -/
theorem givesBack_leaf {interpret : Json → Except Mismatch α} {ofScalar : Yaml.Node → Option α}
    {write : α → Json} {x : α} (hintegers : (write x).IntegersOnly)
    (hnesting : (write x).nesting ≤ 0) (hx : interpret (write x) = .ok x) (n : Nat) :
    (leaf interpret ofScalar write).GivesBack n x where
  integersOnly := hintegers
  nesting := Nat.le_trans hnesting (Nat.zero_le n)
  read :=
    let back := readsBack_readValue hintegers hnesting
    ⟨fun rest hrest => readLeaf_of_readValue (back.read rest hrest) hx, back.head⟩
  ofJson _ := hx

/-- Strings are given back. -/
theorem givesBack_string (n : Nat) (s : String) : string.GivesBack n s :=
  givesBack_leaf (.string s) (Nat.le_refl 0) rfl n

/-- Integers of 64 bits are given back. -/
theorem givesBack_int64 (n : Nat) {i : Int} (hi : IntRange.int64.contains i = true) :
    int64.GivesBack n i :=
  givesBack_leaf (.int (.inl hi)) (Nat.le_refl 0) (if_pos hi) n

/-- Free values are given back if they are canonical and their numbers are integers. -/
theorem givesBack_free {n : Nat} {v : Json} (hcanonical : v.Canonical)
    (hintegers : v.IntegersOnly) (hnesting : v.nesting ≤ n) : free.GivesBack n v where
  integersOnly := hintegers
  nesting := hnesting
  read := by
    have back := readsBack_readValue hintegers hnesting
    refine ⟨fun rest hrest => ?_, back.head⟩
    change readCanonical n (v.compact ++ rest) = _
    simp only [readCanonical, back.read rest hrest, Read.ok_bind, canonical_eq_self v hcanonical,
      Read.pure_eq_ok]
  ofJson _ := congrArg Except.ok (canonical_eq_self v hcanonical)

/-! ### Values that may be missing -/

/-- No text of a value but that of null begins like it. -/
theorem head_compact_ne {v : Json} (hv : v.IntegersOnly) (hnull : v ≠ .null) {c : Char}
    {cs : List Char} (htext : v.compact = c :: cs) : c ≠ 'n' := by
  cases hv with
  | null => exact absurd rfl hnull
  | bool b => cases b <;> cases htext <;> decide
  | @int i _ =>
    obtain ⟨d, ds, hdigits, hd⟩ := exists_intText_eq_cons i
    obtain ⟨rfl, -⟩ := List.cons.inj (hdigits.symm.trans htext)
    rcases hd with rfl | hdigit
    · decide
    · exact ne_of_isDigit hdigit (by decide)
  | string s => cases htext; decide
  | array _ => cases htext; decide
  | object _ => cases htext; decide

/-- A missing value is given back. -/
theorem givesBack_none (c : Codec α) (n : Nat) : (optional c).GivesBack n none where
  integersOnly := .null
  nesting := Nat.zero_le n
  read := ⟨fun _ _ => rfl, 'n', "ull".toList, rfl, by decide, by decide⟩
  ofJson _ := rfl

/-- A value that is there is given back, if it is not written as null. -/
theorem GivesBack.some {c : Codec α} {n : Nat} {x : α} (h : c.GivesBack n x)
    (hnull : c.write x ≠ .null) : (optional c).GivesBack n (some x) where
  integersOnly := h.integersOnly
  nesting := h.nesting
  read := by
    obtain ⟨ch, cs, htext, hspace, hend⟩ := h.read.head
    have hne : ch ≠ 'n' := head_compact_ne h.integersOnly hnull htext
    refine ⟨fun rest hrest => ?_, ch, cs, htext, hspace, hend⟩
    have hread := h.read.read rest hrest
    change (optional c).read n ((c.write x).compact ++ rest) = _
    rw [htext, List.cons_append] at hread ⊢
    simp only [optional, skipSpace_cons hspace]
    split
    next heq => exact absurd (List.cons.inj heq).1 hne
    · rw [hread]
      rfl
  ofJson origin := by
    have hback := h.ofJson origin
    change (optional c).ofJson origin (c.write x) = _
    -- The value is not null, so it is read as one that is there.
    simp only [optional]
    rw [hback]
    rfl

/-- A string that may be missing is given back. -/
theorem givesBack_optional_string (n : Nat) (s? : Option String) :
    (optional string).GivesBack n s? := by
  cases s? with
  | none => exact givesBack_none string n
  | some s => exact (givesBack_string n s).some nofun

/-! ### Lists and maps -/

section Parts

variable {c : Codec α} {n : Nat}

/-- Lists are given back if their elements are. -/
theorem givesBack_list {xs : List α} (h : ∀ x ∈ xs, c.GivesBack n x) :
    (list c).GivesBack (n + 1) xs where
  integersOnly := by
    refine .array fun v hv => ?_
    obtain ⟨x, hx, rfl⟩ := List.mem_map.mp hv
    exact (h x hx).integersOnly
  nesting := by
    refine Nat.succ_le_succ (nestingItems_le_iff.mpr fun v hv => ?_)
    obtain ⟨x, hx, rfl⟩ := List.mem_map.mp hv
    exact (h x hx).nesting
  read := by
    have hparts : List.Forall₂ (ReadsBack (c.read n)) xs (xs.map c.write) :=
      List.forall₂_map_right_iff.mpr (List.forall₂_same.mpr fun x hx => (h x hx).read)
    refine ⟨fun rest _ => ?_, '[', compactItems (xs.map c.write), rfl, by decide, by decide⟩
    change (list c).read (n + 1) ('[' :: compactItems (xs.map c.write) ++ rest) = _
    have hbracket : isSpace '[' = false := by decide
    simp only [list, List.cons_append, skipSpace_cons hbracket, readArray_compactItems hparts]
  ofJson origin := by
    change (xs.map c.write).mapM (c.ofJson origin) = .ok xs
    induction xs with
    | nil => rfl
    | cons x xs ih =>
      have hx := (h x List.mem_cons_self).ofJson origin
      have hxs := ih fun y hy => h y (List.mem_cons_of_mem x hy)
      rw [List.map_cons, List.mapM_cons, hx, hxs]
      rfl

/-- The entries of a map, put aside, are read one by one. -/
theorem mapM_entries {entries : List (String × α)} (h : ∀ e ∈ entries, c.GivesBack n e.2)
    (origin : Origin) :
    (entries.map fun (k, x) => (k, c.write x)).mapM
      (fun (k, v) => return (k, ← c.ofJson origin v) :
        String × Json → Except Mismatch (String × α)) = .ok entries := by
  induction entries with
  | nil => rfl
  | cons e entries ih =>
    have he := (h e List.mem_cons_self).ofJson origin
    have hrest := ih fun y hy => h y (List.mem_cons_of_mem e hy)
    rw [List.map_cons, List.mapM_cons, hrest]
    simp only [he]
    rfl

/-- Maps are given back if their values are. -/
theorem givesBack_stringMap {m : SortedMap String α} (h : ∀ e ∈ m.entries, c.GivesBack n e.2) :
    (stringMap c).GivesBack (n + 1) m where
  integersOnly := by
    refine .object fun v hv => ?_
    obtain ⟨e, he, rfl⟩ := List.mem_map.mp hv
    exact (h e he).integersOnly
  nesting := by
    refine Nat.succ_le_succ (nestingMembers_le_iff.mpr fun v hv => ?_)
    obtain ⟨e, he, rfl⟩ := List.mem_map.mp hv
    exact (h e he).nesting
  read := by
    have hparts : List.Forall₂ (ReadsBackMember (c.read n)) m.entries
        (m.entries.map fun (k, x) => (k, c.write x)) :=
      List.forall₂_map_right_iff.mpr (List.forall₂_same.mpr fun e he => ⟨rfl, (h e he).read⟩)
    refine ⟨fun rest _ => ?_, '{', compactMembers (m.entries.map fun (k, x) => (k, c.write x)), rfl,
      by decide, by decide⟩
    change (stringMap c).read (n + 1)
      ('{' :: compactMembers (m.entries.map fun (k, x) => (k, c.write x)) ++ rest) = _
    have hbrace : isSpace '{' = false := by decide
    simp only [stringMap, List.cons_append, skipSpace_cons hbrace, readObject_compactMembers hparts,
      Read.ok_bind, Read.pure_eq_ok, SortedMap.ofList_entries String.lt_irrefl]
  ofJson origin := by
    change (((m.entries.map fun (k, x) => (k, c.write x)).mapM
      (fun (k, v) => return (k, ← c.ofJson origin v) :
        String × Json → Except Mismatch (String × α))) >>= fun entries =>
          return SortedMap.ofList entries) = .ok m
    rw [mapM_entries h origin]
    exact congrArg Except.ok (SortedMap.ofList_entries String.lt_irrefl m)

/-- Maps of strings are given back. -/
theorem givesBack_stringMap_string (n : Nat) (m : SortedMap String String) :
    (stringMap string).GivesBack (n + 1) m :=
  givesBack_stringMap fun e _ => givesBack_string n e.2

end Parts

end Codec

end AgentFlow
