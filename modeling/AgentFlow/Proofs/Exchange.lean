import AgentFlow.Proofs.Codec.Record
import AgentFlow.Proofs.Json.Canonical
import AgentFlow.RunEvent
import AgentFlow.Task
import AgentFlow.Workflow

/-!
# Reading back what is exchanged

Messages, updates, states, events, outcomes, tasks and submissions are read back from the texts that
are written for them. An event is written as an object that names its kind first; the members behind
it are put aside and, once the kind is known, read as its fields.
-/

namespace AgentFlow

open Json Number Fields

/-! ### Records -/

/-- Messages are given back. A name that is missing is left out and stands for itself. -/
theorem Message.givesBack (n : Nat) (m : Message) : Message.codec.GivesBack (n + 1) m := by
  refine Record.givesBack ?_ rfl
  refine .shown (Codec.givesBack_string n m.role) (by decide) ?_ rfl
  refine .shown (Codec.givesBack_string n m.content) (by decide) ?_ rfl
  refine .cons (fun _ => Codec.givesBack_optional_string n m.name) (fun hhides => ?_) (by decide)
    .nil
  have hname : m.name = none := Option.isNone_iff_eq_none.mp hhides
  rw [hname]
  rfl

/-- Lists of messages are given back. -/
theorem Message.givesBack_list (n : Nat) (messages : List Message) :
    (Codec.list Message.codec).GivesBack (n + 2) messages :=
  Codec.givesBack_list fun m _ => m.givesBack n

/-- States are given back. -/
theorem ExecutionState.givesBack (n : Nat) (s : ExecutionState) :
    ExecutionState.codec.GivesBack (n + 3) s := by
  refine Record.givesBack ?_ rfl
  refine .shown (Message.givesBack_list n s.messages) (by decide) ?_ rfl
  refine .shown (Codec.givesBack_string (n + 2) s.currentAgent) (by decide) ?_ rfl
  exact .shown (Codec.givesBack_stringMap_string (n + 1) s.results) (by decide) .nil rfl

/-- Updates are given back. -/
theorem StateUpdate.givesBack (n : Nat) (u : StateUpdate) :
    StateUpdate.codec.GivesBack (n + 3) u := by
  refine Record.givesBack ?_ rfl
  refine .shown (Message.givesBack_list n u.messages) (by decide) ?_ rfl
  refine .shown (Codec.givesBack_stringMap_string (n + 1) u.results) (by decide) ?_ rfl
  exact .shown (Codec.givesBack_optional_string (n + 2) u.currentAgent) (by decide) .nil rfl

/-- Outcomes are given back. -/
theorem RunOutcome.givesBack (n : Nat) (o : RunOutcome) :
    RunOutcome.codec.GivesBack (n + 3) o := by
  refine Record.givesBack ?_ rfl
  refine .shown (Codec.givesBack_stringMap_string (n + 1) o.results) (by decide) ?_ rfl
  exact .shown (Message.givesBack_list n o.messages) (by decide) .nil rfl

/-- The step of a task and its agent, if it names one, are words of 64 bits. -/
def Task.InWords (t : Task) : Prop :=
  IntRange.int64.contains t.step = true ∧
    ∀ id, t.agentId = some id → IntRange.int64.contains id = true

/-- Tasks are given back. -/
theorem Task.givesBack (n : Nat) {t : Task} (ht : t.InWords) :
    Task.codec.GivesBack (n + 1) t := by
  obtain ⟨step, agentId, instruction⟩ := t
  have hagent : (Codec.optional .int64).GivesBack n agentId := by
    cases agentId with
    | none => exact Codec.givesBack_none .int64 n
    | some id => exact (Codec.givesBack_int64 n (ht.2 id rfl)).some nofun
  refine Record.givesBack ?_ rfl
  refine .shown (Codec.givesBack_int64 n ht.1) (by decide) ?_ rfl
  refine .shown hagent (by decide) ?_ rfl
  exact .shown (Codec.givesBack_string n instruction) (by decide) .nil rfl

/-! ### Submissions -/

/-- A submission that a text can carry: the numbers of its entries are integers, the entries nest at
most 126 deep, and the keys of objects increase. -/
def Submission.Writable : Submission → Prop
  | list items => ∀ item ∈ items, item.IntegersOnly ∧ item.nesting ≤ 126 ∧ item.Canonical
  | encoded _ => True

/-- A value of integers is read as the submission that it is. -/
theorem Submission.readsBack_of_ofValue {s : Submission} {v : Json} (hintegers : v.IntegersOnly)
    (hnesting : v.nesting ≤ maxNesting) (hmade : ofValue v = .ok s) :
    ReadsBack (codec.read maxNesting) s v := by
  have hback := readsBack_readValue hintegers hnesting
  refine ⟨fun rest hrest => ?_, hback.head⟩
  simp only [codec, hback.read rest hrest, Read.ok_bind, hmade, Read.pure_eq_ok]

/-- Submissions are read back, be they lists or texts themselves. -/
theorem Submission.readsBack {s : Submission} (hs : s.Writable) :
    ReadsBack (codec.read maxNesting) s (codec.write s) := by
  cases s with
  | list items =>
    refine readsBack_of_ofValue (.array fun item hitem => (hs item hitem).1) ?_ ?_
    · exact Nat.succ_le_succ (nestingItems_le_iff.mpr fun item hitem => (hs item hitem).2.1)
    · have hitems : items.map canonical = items := by
        rw [List.map_congr_left fun item hitem => canonical_eq_self item (hs item hitem).2.2,
          List.map_id']
      exact congrArg (Except.ok ∘ list) hitems
  | encoded text => exact readsBack_of_ofValue (.string text) (Nat.zero_le _) rfl

/-! ### Events -/

namespace RunEvent

/-- The members behind the kind are put aside, the latest first. -/
theorem readMembers_compactMembersFrom {members : List (String × Json)} {depth : Nat}
    (hnames : ∀ m ∈ members, m.1 ≠ tag)
    (hvalues : ∀ m ∈ members, ReadsBack (readValue depth) m.2 m.2) {turns : Nat}
    (hturns : members.length < turns) (kind : Kind) (aside : List (String × Json))
    (rest : List Char) :
    readMembers depth turns false (some kind) aside (compactMembersFrom false members ++ rest) =
      .ok ((kind, members.reverse ++ aside), '}' :: rest) := by
  induction members generalizing turns aside with
  | nil =>
    obtain ⟨turns, rfl⟩ := Nat.exists_eq_add_one.mpr hturns
    simp only [readMembers, nextKey_compactMembersFrom_nil, Read.ok_bind, Read.pure_eq_ok,
      Bool.false_eq_true, if_false, List.reverse_nil, List.nil_append]
  | cons m members ih =>
    obtain ⟨turns, rfl⟩ := Nat.exists_eq_add_one.mpr (Nat.zero_lt_of_lt hturns)
    obtain ⟨name, v⟩ := m
    obtain ⟨hname, hnames⟩ := List.forall_mem_cons.mp hnames
    obtain ⟨hvalue, hvalues⟩ := List.forall_mem_cons.mp hvalues
    have hread := hvalue.read _ (endsNumber_compactMembersFrom members rest)
    have hmore := ih hnames hvalues (Nat.lt_of_succ_lt_succ hturns) ((name, v) :: aside)
    simp only [readMembers, nextKey_compactMembersFrom, readString_stringText, if_neg hname,
      readColon_cons, hread, Read.ok_bind, if_true, hmore, List.reverse_cons, List.append_assoc,
      List.singleton_append]

/-- The kind is read from the first member, and the members behind it are put aside. -/
theorem readMembers_of_kind {name : String} {kind : Kind} {members : List (String × Json)}
    {depth : Nat} (hkind : Codec.ofName kinds name = .ok kind) (hnames : ∀ m ∈ members, m.1 ≠ tag)
    (hvalues : ∀ m ∈ members, ReadsBack (readValue depth) m.2 m.2) {turns : Nat}
    (hturns : members.length < turns) (rest : List Char) :
    readMembers depth (turns + 1) true none []
        (compactMembers ((tag, .string name) :: members) ++ rest) =
      .ok ((kind, members.reverse), '}' :: rest) := by
  have hkey := nextKey_compactMembersFrom true tag (.string name) members rest
  have hback := readsBack_readValue (.string name) (Nat.le_refl 0)
  have hkindOf : kindOf (.string name) = .ok kind := hkind
  have hnamed := Codec.readLeaf_of_readValue
    (hback.read _ (endsNumber_compactMembersFrom members rest)) hkindOf
  have hmore := readMembers_compactMembersFrom hnames hvalues hturns kind [] rest
  rw [List.append_nil] at hmore
  change nextKey true (compactMembers ((tag, .string name) :: members) ++ rest) = _ at hkey
  simp only [readMembers, hkey, Read.ok_bind, if_true, readString_stringText, Option.isSome_none,
    Bool.false_eq_true, if_false, readColon_cons, hnamed, hmore]

/-- Taking the kind out of members that do not name it leaves them as they are. -/
theorem splitMembers_of_ne {members : List (String × Json)} (hnames : ∀ m ∈ members, m.1 ≠ tag)
    (kind : Kind) : splitMembers (some kind) members = .ok (kind, members) := by
  induction members with
  | nil => rfl
  | cons m members ih =>
    obtain ⟨hname, hnames⟩ := List.forall_mem_cons.mp hnames
    simp only [splitMembers, if_neg hname, ih hnames]
    rfl

/-- An event is given back if the fields of its kind are, and it is made of their values. -/
theorem givesBack_of_fields {σ τ : Type} {n : Nat} {e : RunEvent} {name label : String}
    (fields : Fields σ τ) (x : τ) {make : τ → RunEvent}
    (hwrite : e.toJson = .object ((tag, .string name) :: fields.write x))
    (hkind : Codec.ofName kinds name = .ok (.ofFields label fields make))
    (htag : tag ∉ fields.names) (hfields : fields.GiveBack n x) (hmake : make x = e) :
    codec.GivesBack (n + 1) e := by
  have hnames : ∀ m ∈ fields.write x, m.1 ≠ tag := fun m hm heq =>
    htag (heq ▸ name_mem_of_mem_write hm)
  have hmade (origin : Origin) :
      (Kind.ofFields label fields make).ofMembers origin (fields.write x) = .ok e := by
    change (fields.ofMembers origin (fields.write x)).map make = .ok e
    rw [hfields.ofMembers origin, ← hmake]
    rfl
  constructor
  · change e.toJson.IntegersOnly
    rw [hwrite]
    exact .object (List.forall_mem_cons.mpr ⟨.string name, fun m hm => (hfields.written m hm).1⟩)
  · change e.toJson.nesting ≤ n + 1
    rw [hwrite]
    refine Nat.succ_le_succ (nestingMembers_le_iff.mpr (List.forall_mem_cons.mpr ⟨?_, ?_⟩))
    · exact Nat.zero_le n
    · exact fun m hm => (hfields.written m hm).2
  · change ReadsBack _ e e.toJson
    rw [hwrite]
    refine ⟨fun rest _ => ?_, '{', compactMembers ((tag, .string name) :: fields.write x), rfl,
      by decide, by decide⟩
    have hvalues : ∀ m ∈ fields.write x, ReadsBack (readValue n) m.2 m.2 := fun m hm =>
      readsBack_readValue (hfields.written m hm).1 (hfields.written m hm).2
    have hturns : (fields.write x).length <
        (compactMembers ((tag, .string name) :: fields.write x) ++ rest).length := by
      have hle := length_le_compactMembers ((tag, .string name) :: fields.write x)
      rw [List.length_cons] at hle
      rw [List.length_append]
      omega
    have hread := readMembers_of_kind hkind hnames hvalues hturns rest
    have hbrace : isSpace '{' = false := by decide
    have hend : skipSpace ('}' :: rest) = '}' :: rest := skipSpace_cons (by decide) rest
    simp only [codec, compact, List.cons_append, skipSpace_cons hbrace, hread, finishObject,
      closeObject, hend, Read.ok_bind, List.reverse_reverse, hmade, settle]
  · intro origin
    change codec.ofJson origin e.toJson = .ok e
    have hsplit : splitMembers none ((tag, .string name) :: fields.write x) =
        .ok (.ofFields label fields make, fields.write x) := by
      simp only [splitMembers, if_true, Option.isSome_none, Bool.false_eq_true, if_false, kindOf,
        hkind]
      exact splitMembers_of_ne hnames _
    rw [hwrite]
    simp only [codec, hsplit]
    exact hmade origin

/-- Events are given back. -/
theorem givesBack (n : Nat) (e : RunEvent) : codec.GivesBack (n + 4) e := by
  cases e with
  | stepStarted node agent =>
    refine givesBack_of_fields startedFields (node, agent, ()) rfl rfl (by decide) ?_ rfl
    refine .shown (Codec.givesBack_string (n + 3) node) (by decide) ?_ rfl
    exact .shown (Codec.givesBack_string (n + 3) agent) (by decide) .nil rfl
  | stepCompleted node update =>
    refine givesBack_of_fields completedFields (node, update, ()) rfl rfl (by decide) ?_ rfl
    refine .shown (Codec.givesBack_string (n + 3) node) (by decide) ?_ rfl
    exact .shown (update.givesBack n) (by decide) .nil rfl
  | finished state =>
    refine givesBack_of_fields finishedFields (state, ()) rfl rfl (by decide) ?_ rfl
    exact .shown (state.givesBack n) (by decide) .nil rfl
  | failed node? error =>
    refine givesBack_of_fields failedFields (node?, error, ()) rfl rfl (by decide) ?_ rfl
    refine .shown (Codec.givesBack_optional_string (n + 3) node?) (by decide) ?_ rfl
    exact .shown (Codec.givesBack_string (n + 3) error) (by decide) .nil rfl

end RunEvent

/-! ### Whole texts -/

/-- **Reading undoes writing.** Each message, update, state, event, outcome and task is read back
from the text that is written for it, whatever strings, lists and maps it holds and whatever is left
out, and so is each submission that a text can carry. Hence no two events have one text. -/
theorem parse_textOf_exchanged :
    (∀ m, Message.codec.parse (Message.codec.textOf m) = .ok m) ∧
    (∀ u, StateUpdate.codec.parse (StateUpdate.codec.textOf u) = .ok u) ∧
    (∀ s, ExecutionState.codec.parse (ExecutionState.codec.textOf s) = .ok s) ∧
    (∀ e, RunEvent.codec.parse (RunEvent.codec.textOf e) = .ok e) ∧
    (∀ o, RunOutcome.codec.parse (RunOutcome.codec.textOf o) = .ok o) ∧
    (∀ t : Task, t.InWords → Task.codec.parse (Task.codec.textOf t) = .ok t) ∧
    (∀ s : Submission, s.Writable → Submission.codec.parse (Submission.codec.textOf s) = .ok s) ∧
    Function.Injective RunEvent.codec.textOf := by
  have hevent (e : RunEvent) : RunEvent.codec.parse (RunEvent.codec.textOf e) = .ok e :=
    Codec.parse_textOf (e.givesBack 123).read
  refine ⟨fun m => Codec.parse_textOf (m.givesBack 126).read,
    fun u => Codec.parse_textOf (u.givesBack 124).read,
    fun s => Codec.parse_textOf (s.givesBack 124).read, hevent,
    fun o => Codec.parse_textOf (o.givesBack 124).read,
    fun t ht => Codec.parse_textOf (Task.givesBack 126 ht).read,
    fun s hs => Codec.parse_textOf (Submission.readsBack hs), ?_⟩
  intro e e' htext
  have hsame := hevent e
  rw [htext, hevent e'] at hsame
  exact (Except.ok.inj hsame).symm

/-- A task with the least step and the greatest agent there are, and an escaped instruction. -/
def farTask : Task := ⟨-0x8000000000000000, some 0x7FFFFFFFFFFFFFFF, "\u0001\"é😀"⟩

/-- A submission with an integer that takes all 64 bits, and keys that are empty or escaped. -/
def nestedSubmission : Submission :=
  .list [.object [("", .array [.null, .int 0xFFFFFFFFFFFFFFFF]), ("\n", .object [])], .string "[]"]

/-- Such a task and such a submission are read back, and so is an event that leaves out the node. -/
theorem parse_textOf_exchanged_far :
    farTask.InWords ∧ nestedSubmission.Writable ∧
    Task.codec.parse (Task.codec.textOf farTask) = .ok farTask ∧
    Submission.codec.parse (Submission.codec.textOf nestedSubmission) = .ok nestedSubmission ∧
    RunEvent.codec.textOf (.failed none "\t") =
      "\x7b\"event\":\"failed\",\"node_id\":null,\"error\":\"\\t\"\x7d" ∧
    RunEvent.codec.parse
      "\x7b\"event\":\"failed\",\"node_id\":null,\"error\":\"\\t\"\x7d" =
        .ok (.failed none "\t") := by
  have hwords : farTask.InWords := ⟨by decide, fun id hid => by cases hid; decide⟩
  have hobject : (Json.object [("", .array [.null, .int 0xFFFFFFFFFFFFFFFF]),
      ("\n", .object [])]).IntegersOnly := by
    refine .object (List.forall_mem_cons.mpr ⟨.array ?_, ?_⟩)
    · simpa using ⟨IntegersOnly.null, .int (.inr (by decide))⟩
    · simpa using .object (List.forall_mem_nil _)
  have hwritable : nestedSubmission.Writable := by
    refine List.forall_mem_cons.mpr ⟨⟨hobject, by decide, ?_⟩, ?_⟩
    · exact ⟨by decide, ⟨trivial, trivial, trivial⟩, ⟨.nil, trivial⟩, trivial⟩
    · simpa using ⟨.string "[]", by decide, trivial⟩
  have htext : RunEvent.codec.textOf (.failed none "\t") =
      "\x7b\"event\":\"failed\",\"node_id\":null,\"error\":\"\\t\"\x7d" := by rfl
  obtain ⟨_, _, _, hevent, _, htask, hsubmission, _⟩ := parse_textOf_exchanged
  exact ⟨hwords, hwritable, htask farTask hwords, hsubmission nestedSubmission hwritable, htext,
    htext ▸ hevent _⟩

end AgentFlow
