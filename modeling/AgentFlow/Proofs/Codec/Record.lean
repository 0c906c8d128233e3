import AgentFlow.Proofs.Codec
import AgentFlow.Proofs.Codec.Basic
import AgentFlow.Proofs.Json.Skipped

/-!
# Reading back written records

The object that is written for a record has a member for each field that is not left out, in the
order of the fields. Each member fills the slot of its field and leaves the others as they are, as
no two fields have one name. In the end the slots of all fields that were written are filled, and
the others are completed by what stands for a field that is missing. Members that no field takes are
passed over.
-/

namespace AgentFlow

open Json

variable {α σ τ : Type}

/-! ### Members -/

/-- The members of an object as they stand after its brace, or after a member. -/
def Json.compactMembersFrom (first : Bool) (members : List (String × Json)) : List Char :=
  if first then compactMembers members else compactMoreMembers members

/-- Where there is a member its key comes next, and then its value. -/
theorem Json.nextKey_compactMembersFrom (first : Bool) (k : String) (v : Json)
    (members : List (String × Json)) (rest : List Char) :
    nextKey first (compactMembersFrom first ((k, v) :: members) ++ rest) =
      .ok (true, k.toList.flatMap escapeChar ++
        '"' :: ':' :: (v.compact ++ (compactMembersFrom false members ++ rest))) := by
  cases first with
  | true =>
    simp only [compactMembersFrom, if_true, compactMembers, List.append_assoc, List.cons_append,
      nextKey_first, Bool.false_eq_true, if_false]
  | false =>
    simp only [compactMembersFrom, if_false, compactMoreMembers, List.append_assoc,
      List.cons_append, nextKey_comma, Bool.false_eq_true]

/-- Where there is no member the object ends. -/
theorem Json.nextKey_compactMembersFrom_nil (first : Bool) (rest : List Char) :
    nextKey first (compactMembersFrom first [] ++ rest) = .ok (false, '}' :: rest) := by
  have hend : isSpace '}' = false := by decide
  cases first <;>
    simp only [compactMembersFrom, compactMembers, compactMoreMembers, if_true, if_false,
      Bool.false_eq_true, List.cons_append, List.nil_append, nextKey, skipSpace_cons hend]

/-- What follows a member's value ends a number. -/
theorem Json.endsNumber_compactMembersFrom (members : List (String × Json)) (rest : List Char) :
    EndsNumber (compactMembersFrom false members ++ rest) :=
  endsNumber_compactMoreMembers members rest

/-- A colon is read before a value. -/
theorem Json.readColon_cons (rest : List Char) : readColon (':' :: rest) = .ok ((), rest) := by
  have hcolon : isSpace ':' = false := by decide
  simp only [readColon, skipSpace_cons hcolon]

/-- What is read may be put into something larger. -/
theorem Json.ReadsBack.map {α β : Type} {one : List Char → Read (α × List Char)} {x : α} {v : Json}
    (h : ReadsBack one x v) (f : α → β) :
    ReadsBack (fun cs => do
      let (x, cs) ← one cs
      return (f x, cs)) (f x) v where
  read rest hrest := by simp only [h.read rest hrest, Read.ok_bind, Read.pure_eq_ok]
  head := h.head

/-! ### Slots -/

namespace Fields

/-- Members fill slots one after another: each has the name of a field whose slot is empty, and what
is put there is read back from the member's value. -/
inductive Fills (fields : Fields σ τ) (n : Nat) (origin : Origin) :
    σ → List (String × Json) → σ → Prop
  | nil (slots : σ) : Fills fields n origin slots [] slots
  | cons {slots next final : σ} {name : String} {v : Json} {members : List (String × Json)}
      {read : List Char → Read (σ × List Char)} :
      fields.readField n name slots = .vacant read → ReadsBack read next v →
      fields.fieldOfJson origin name v slots = .vacant (.ok next) →
      Fills fields n origin next members final →
      Fills fields n origin slots ((name, v) :: members) final

section Fills

variable {fields : Fields σ τ} {n : Nat} {origin : Origin} {slots final : σ}
  {members : List (String × Json)}

/-- Members that fill slots are read from a text, a turn for each of them and one for the end. -/
theorem Fills.readMembers (h : fields.Fills n origin slots members final) {turns : Nat}
    (hturns : members.length < turns) (first : Bool) (rest : List Char) :
    fields.readMembers n turns first slots (compactMembersFrom first members ++ rest) =
      .ok (final, '}' :: rest) := by
  induction h generalizing turns first with
  | nil slots =>
    obtain ⟨turns, rfl⟩ := Nat.exists_eq_add_one.mpr hturns
    simp only [Fields.readMembers, nextKey_compactMembersFrom_nil, Read.ok_bind, Read.pure_eq_ok,
      Bool.false_eq_true, if_false]
  | @cons slots next final name v members read hslot hread _ _ ih =>
    obtain ⟨turns, rfl⟩ := Nat.exists_eq_add_one.mpr (Nat.zero_lt_of_lt hturns)
    have hvalue := hread.read _ (endsNumber_compactMembersFrom members rest)
    have hmore := ih (Nat.lt_of_succ_lt_succ hturns) false
    simp only [Fields.readMembers, nextKey_compactMembersFrom, readString_stringText, hslot,
      readColon_cons, hvalue, Read.within_ok, Read.ok_bind, if_true, hmore]

/-- Members that fill slots are read from a value. -/
theorem Fills.membersOfJson (h : fields.Fills n origin slots members final) :
    fields.membersOfJson origin slots members = .ok final := by
  induction h with
  | nil slots => rfl
  | cons _ _ hslot _ ih =>
    simp only [Fields.membersOfJson, hslot]
    exact ih

/-- A field in front of others takes no member with another name. -/
theorem Fills.behind {field : Field α} (x? : Option α)
    (h : fields.Fills n origin slots members final)
    (hnames : ∀ m ∈ members, field.name ≠ m.1) :
    (Fields.cons field fields).Fills n origin (x?, slots) members (x?, final) := by
  induction h with
  | nil slots => exact .nil (x?, slots)
  | @cons slots next final name v members read hslot hread hjson _ ih =>
    have hname : field.name ≠ name := hnames (name, v) List.mem_cons_self
    refine .cons ?_ (hread.map fun slots => (x?, slots)) ?_
      (ih fun m hm => hnames m (List.mem_cons_of_mem _ hm))
    · simp only [readField, if_neg hname, hslot]
    · simp only [fieldOfJson, if_neg hname, hjson]
      rfl

end Fills

/-! ### Written fields -/

/-- Fields give back their values: each one that is written is given back, each one that is left out
is what stands for it then, and each has a name of its own. -/
inductive GiveBack (n : Nat) : {σ τ : Type} → Fields σ τ → τ → Prop
  | nil : GiveBack n .nil ()
  | cons {α σ τ : Type} {field : Field α} {rest : Fields σ τ} {x : α} {xs : τ} :
      (field.hides x = false → field.codec.GivesBack n x) →
      (field.hides x = true → field.complete none = .ok x) →
      field.name ∉ rest.names → GiveBack n rest xs → GiveBack n (.cons field rest) (x, xs)

/-- A field that is always written gives back its value if its codec does. -/
theorem GiveBack.shown {n : Nat} {field : Field α} {rest : Fields σ τ} {x : α} {xs : τ}
    (hback : field.codec.GivesBack n x) (hname : field.name ∉ rest.names)
    (hrest : rest.GiveBack n xs) (hshown : field.hides x = false) :
    (Fields.cons field rest).GiveBack n (x, xs) :=
  .cons (fun _ => hback) (fun hhides => by rw [hshown] at hhides; cases hhides) hname hrest

/-- The slots once all that is written has been read. -/
def filled {σ τ : Type} : Fields σ τ → τ → σ
  | nil, _ => ()
  | cons field rest, (x, xs) => (if field.hides x then none else some x, rest.filled xs)

variable {n : Nat} {fields : Fields σ τ} {x : τ}

/-- What is written nests no deeper than may be open, and its numbers are integers. -/
theorem GiveBack.written (h : fields.GiveBack n x) :
    ∀ m ∈ fields.write x, m.2.IntegersOnly ∧ m.2.nesting ≤ n := by
  induction h with
  | nil => exact List.forall_mem_nil _
  | @cons α σ τ field rest x xs hshown _ _ _ ih =>
    rw [write]
    split
    · exact ih
    next hhides =>
      have hback := hshown (by simpa using hhides)
      exact List.forall_mem_cons.mpr ⟨⟨hback.integersOnly, hback.nesting⟩, ih⟩

/-- The members that are written fill the slots of the fields that are not left out. -/
theorem GiveBack.fills (h : fields.GiveBack n x) (origin : Origin) :
    fields.Fills n origin fields.vacant (fields.write x) (fields.filled x) := by
  induction h with
  | nil => exact .nil ()
  | @cons α σ τ field rest x xs hshown _ hname _ ih =>
    -- The members behind the first one belong to other fields.
    have hnames : ∀ m ∈ rest.write xs, field.name ≠ m.1 := fun m hm heq =>
      hname (heq ▸ name_mem_of_mem_write hm)
    rw [write, filled, vacant]
    cases hhides : field.hides x with
    | true => exact ih.behind none hnames
    | false =>
      have hback := hshown hhides
      refine .cons ?_ (hback.read.map fun x => (some x, rest.vacant)) ?_
        (ih.behind (some x) hnames)
      · simp only [readField, if_true]
      · simp only [fieldOfJson, if_true, hback.ofJson origin]
        rfl

/-- The slots that are filled tell all values. -/
theorem GiveBack.complete (h : fields.GiveBack n x) :
    fields.complete (fields.filled x) = .ok x := by
  induction h with
  | nil => rfl
  | @cons α σ τ field rest x xs _ hhidden _ _ ih =>
    have hfield : field.complete (if field.hides x then none else some x) = .ok x := by
      split
      next hhides => exact hhidden hhides
      next => rfl
    simp only [Fields.complete, filled, hfield, ih]
    rfl

/-- Fields are read back from the members that are written, when these have been put aside. -/
theorem GiveBack.ofMembers (h : fields.GiveBack n x) (origin : Origin) :
    fields.ofMembers origin (fields.write x) = .ok x := by
  simp only [Fields.ofMembers, (h.fills origin).membersOfJson]
  exact h.complete

/-- Fields are read from the text of members that fill slots, if these can be completed. -/
theorem readObject_compactMembers {members : List (String × Json)} {slots : σ} {rest : List Char}
    (hread : ∀ turns, members.length < turns →
      fields.readMembers n turns true fields.vacant (compactMembers members ++ rest) =
        .ok (slots, '}' :: rest))
    (hcomplete : fields.complete slots = .ok x) :
    fields.readObject n (compactMembers members ++ rest) = .ok (x, rest) := by
  have hturns : members.length < (compactMembers members ++ rest).length + 1 := by
    have hle := length_le_compactMembers members
    rw [List.length_append]
    omega
  have hend : skipSpace ('}' :: rest) = '}' :: rest := skipSpace_cons (by decide) rest
  simp only [Fields.readObject, hread _ hturns, hcomplete, Read.ok_bind, Read.pure_eq_ok,
    finishObject, closeObject, hend]

/-- Fields are read back from the text of the members that are written. -/
theorem GiveBack.readObject (h : fields.GiveBack n x) (rest : List Char) :
    fields.readObject n (compactMembers (fields.write x) ++ rest) = .ok (x, rest) :=
  readObject_compactMembers (fun _ hturns => (h.fills .given).readMembers hturns true rest)
    h.complete

/-! ### Unknown members -/

/-- A name that no field has is unknown, whatever has been read. -/
theorem readField_of_notMem {name : String} {slots : σ} (hname : name ∉ fields.names) :
    fields.readField n name slots = .unknown := by
  induction fields with
  | nil => rfl
  | cons field rest ih =>
    obtain ⟨x?, slots⟩ := slots
    rw [names, List.mem_cons, not_or] at hname
    have hfield : field.name ≠ name := fun heq => hname.1 heq.symm
    simp only [readField, if_neg hfield, ih hname.2]

/-- Members that no field takes are passed over: what has been read stays as it is. -/
theorem readMembers_of_unknown {members : List (String × Json)}
    (h : ∀ m ∈ members, m.1 ∉ fields.names ∧ m.2.IntegersOnly) {turns : Nat}
    (hturns : members.length < turns) (first : Bool) (slots : σ) (rest : List Char) :
    fields.readMembers n turns first slots (compactMembersFrom first members ++ rest) =
      .ok (slots, '}' :: rest) := by
  induction members generalizing turns first with
  | nil =>
    obtain ⟨turns, rfl⟩ := Nat.exists_eq_add_one.mpr hturns
    simp only [Fields.readMembers, nextKey_compactMembersFrom_nil, Read.ok_bind, Read.pure_eq_ok,
      Bool.false_eq_true, if_false]
  | cons member members ih =>
    obtain ⟨name, v⟩ := member
    obtain ⟨⟨hname, hintegers⟩, hmembers⟩ := List.forall_mem_cons.mp h
    obtain ⟨turns, rfl⟩ := Nat.exists_eq_add_one.mpr (Nat.zero_lt_of_lt hturns)
    have hvalue := skipValue_compact hintegers (endsNumber_compactMembersFrom members rest)
    have hmore := ih hmembers (Nat.lt_of_succ_lt_succ hturns) false
    simp only [Fields.readMembers, nextKey_compactMembersFrom, readString_stringText,
      readField_of_notMem hname, readColon_cons, hvalue, Read.within_ok, Read.ok_bind, if_true,
      hmore]

end Fields

/-- An object is read as a record if the inside of its text is read as the record's fields. -/
theorem Record.readsBack_object {r : Record σ τ α} {n : Nat} {x : τ}
    {members : List (String × Json)}
    (h : ∀ rest, r.fields.readObject n (compactMembers members ++ rest) = .ok (x, rest)) :
    ReadsBack (r.codec.read (n + 1)) (r.ofFields x) (.object members) := by
  have hbrace : isSpace '{' = false := by decide
  refine ⟨fun rest _ => ?_, '{', compactMembers members, rfl, by decide, by decide⟩
  simp only [codec, compact, List.cons_append, skipSpace_cons hbrace, h rest, Read.ok_bind,
    Read.pure_eq_ok]

/-- A record is read from an object without any of its fields, if all of them may be missing. -/
theorem Record.parse_of_unknown {r : Record σ τ α} {x : τ}
    (hx : r.fields.complete r.fields.vacant = .ok x) {members : List (String × Json)}
    (h : ∀ m ∈ members, m.1 ∉ r.fields.names ∧ m.2.IntegersOnly) :
    r.codec.parse (Json.object members).compactText = .ok (r.ofFields x) := by
  refine Codec.parse_compactText (readsBack_object fun rest => ?_)
  exact Fields.readObject_compactMembers
    (fun _ hturns => Fields.readMembers_of_unknown h hturns true _ rest) hx

/-- **Records.** A record is given back if its fields are, and it is made of their values. -/
theorem Record.givesBack {r : Record σ τ α} {n : Nat} {x : α}
    (hfields : r.fields.GiveBack n (r.toFields x)) (hx : r.ofFields (r.toFields x) = x) :
    r.codec.GivesBack (n + 1) x where
  integersOnly := .object fun m hm => (hfields.written m hm).1
  nesting := Nat.succ_le_succ (nestingMembers_le_iff.mpr fun m hm => (hfields.written m hm).2)
  read := by
    have hread := readsBack_object hfields.readObject
    rw [hx] at hread
    exact hread
  ofJson origin := by
    change (r.fields.ofMembers origin (r.members x)).map r.ofFields = .ok x
    rw [members, hfields.ofMembers origin]
    exact congrArg Except.ok hx

end AgentFlow
