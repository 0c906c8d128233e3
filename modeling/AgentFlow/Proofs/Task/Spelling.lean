import AgentFlow.Proofs.Task.Encoded
import AgentFlow.Proofs.Task.Normalize
import AgentFlow.Proofs.Task.Reference

/-!
# The two names of a member

An entry may give its agent and its instruction under a second name. Which name it uses makes no
difference but in one case: a zero counts as missing under `agent_id`, so that the task has no
agent, while under `agentId` it refers to the agent whose id is zero.
-/

namespace AgentFlow

namespace Json

/-- The object with a member under another key. An object without the member, or a value that is no
object, stays as it is. -/
def renameMember (old new : String) : Json → Json
  | object members =>
    match lookupEntry old members with
    | some v => object (insertEntry new v (eraseEntry old members))
    | none => object members
  | v => v

/-- What is found in an object once a member goes by a key that was not in use. -/
theorem member?_renameMember {old new : String} {item : Json} (hne : old ≠ new)
    (hnew : item.member? new = none) (k : String) :
    (item.renameMember old new).member? k =
      if k = new then item.member? old else if k = old then none else item.member? k := by
  cases item with
  | object members =>
    rw [renameMember]
    cases hold : lookupEntry old members with
    | none =>
      by_cases hk : k = new
      · subst hk
        rw [if_pos rfl, hnew]
        exact hold.symm
      · by_cases hk' : k = old
        · subst hk'
          rw [if_neg hk, if_pos rfl]
          exact hold
        · rw [if_neg hk, if_neg hk']
    | some v =>
      simp only [member?]
      by_cases hk : k = new
      · subst hk
        rw [if_pos rfl, lookupEntry_insertEntry_self, hold]
      · rw [if_neg hk, lookupEntry_insertEntry_of_ne (Ne.symm hk), lookupEntry_eraseEntry]
  | _ => simp [renameMember, member?]

end Json

/-- Which of its members an entry gives under their second names. -/
structure Spelling where
  agent : Bool
  instruction : Bool

/-- The entry with its members under the names that the spelling chooses. -/
def Spelling.respell (spelling : Spelling) (item : Json) : Json :=
  let item := if spelling.agent then item.renameMember "agent_id" "agentId" else item
  if spelling.instruction then item.renameMember "instruction" "prompt" else item

/-- An entry uses no second name. -/
def UsesFirstNames (item : Json) : Prop :=
  item.member? "agentId" = none ∧ item.member? "prompt" = none

/-- A spelling gives the agent of an entry under its second name, and the entry refers to it by a
zero. -/
def Spelling.MovesZero (spelling : Spelling) (item : Json) : Prop :=
  spelling.agent = true ∧ ∃ v, item.member? "agent_id" = some v ∧ v.number? = some 0

/-- A task as it was before, or a task that had no agent and is delegated to the agent zero. -/
def ZeroForNone (before after : Task) : Prop :=
  after = before ∨ before.agentId = none ∧ after = { before with agentId := some 0 }

/-- The task keeps its step. -/
theorem ZeroForNone.step_eq {before after : Task} (h : ZeroForNone before after) :
    after.step = before.step := by
  rcases h with rfl | ⟨_, rfl⟩ <;> rfl

namespace Task

/-- A zero refers to the agent zero. -/
theorem agentRef?_of_zero {v : Json} (h : v.number? = some 0) : agentRef? v = some 0 := by
  have hwords : v.InWords := by
    cases v with
    | int n =>
      obtain rfl : n = 0 := by simpa [Json.number?] using h
      exact .inl (by decide)
    | float x => trivial
    | _ => cases h
  exact (agentRef?_of_number hwords h).mpr ⟨0, by simp, rfl⟩

/-- A value that counts as missing refers to no agent unless it is a zero. -/
theorem agentRef?_of_countsAsMissing {v : Json} (h : CountsAsMissing v)
    (hzero : v.number? ≠ some 0) : agentRef? v = none := by
  cases h with
  | null | false | emptyArray | emptyObject => rfl
  | emptyText => decide
  | zero h => exact absurd h hzero

/-- The task of an object is made of the step that it states, its agent and its instruction. -/
theorem ofEntry_object (members : List (String × Json)) :
    ofEntry (.object members) = (stepOf (given? (.object members) "step")).map fun step =>
      ⟨step, agentOf (.object members), instructionOf (.object members)⟩ := by
  rw [ofEntry]
  cases stepOf (given? (.object members) "step") <;> rfl

/-- The agent of an entry that gives it under its first name. -/
theorem agentOf_of_usesFirstNames {item : Json} (h : UsesFirstNames item) :
    agentOf item = ((item.member? "agent_id").filter (!isBlank ·)).bind agentRef? := by
  rw [agentOf, filter_given?, given?, h.1, Option.or_none]

end Task

namespace Spelling

variable (spelling : Spelling) {item : Json}

/-- An object stays one, and any other value stays as it is. -/
theorem respell_cases (item : Json) :
    (∃ members respelled, item = .object members ∧ spelling.respell item = .object respelled) ∨
      (∀ members, item ≠ .object members) ∧ spelling.respell item = item := by
  obtain ⟨agent, instruction⟩ := spelling
  cases item with
  | object members =>
    have hrename (old new : String) (members : List (String × Json)) :
        ∃ renamed, (Json.object members).renameMember old new = .object renamed := by
      rw [Json.renameMember]
      split <;> exact ⟨_, rfl⟩
    obtain ⟨first, hfirst⟩ := hrename "agent_id" "agentId" members
    obtain ⟨second, hsecond⟩ := hrename "instruction" "prompt" members
    obtain ⟨both, hboth⟩ := hrename "instruction" "prompt" first
    cases agent <;> cases instruction <;> simp [respell, hfirst, hsecond, hboth]
  | _ => cases agent <;> cases instruction <;> simp [respell, Json.renameMember]

/-- A second name is in use if the spelling chooses it, the first name is then free, and every other
member is found as before. -/
theorem member?_respell (h : UsesFirstNames item) (k : String) :
    (spelling.respell item).member? k =
      if k = "agentId" then (if spelling.agent then item.member? "agent_id" else none)
      else if k = "prompt" then (if spelling.instruction then item.member? "instruction" else none)
      else if spelling.instruction ∧ k = "instruction" ∨ spelling.agent ∧ k = "agent_id" then none
      else item.member? k := by
  obtain ⟨agent, instruction⟩ := spelling
  by_cases hagent : k = "agentId"
  · subst hagent
    cases agent <;> cases instruction <;> simp [respell, Json.member?_renameMember, h.1, h.2]
  · by_cases hprompt : k = "prompt"
    · subst hprompt
      cases agent <;> cases instruction <;> simp [respell, Json.member?_renameMember, h.1, h.2]
    · cases agent <;> cases instruction <;>
        simp [respell, Json.member?_renameMember, h.1, h.2, hagent, hprompt, ite_or]

/-- The instruction of an entry does not depend on its spelling. -/
theorem instructionOf_respell (h : UsesFirstNames item) :
    Task.instructionOf (spelling.respell item) = Task.instructionOf item := by
  simp only [Task.instructionOf, Task.filter_given?, spelling.member?_respell h, h.2]
  cases spelling.instruction <;> simp

/-- The agent of an entry does not depend on its spelling, unless a zero is moved: where the entry
had no agent, it then has the agent zero. -/
theorem agentOf_respell_cases (h : UsesFirstNames item) :
    ¬ spelling.MovesZero item ∧ Task.agentOf (spelling.respell item) = Task.agentOf item ∨
      spelling.MovesZero item ∧ Task.agentOf item = none ∧
        Task.agentOf (spelling.respell item) = some 0 := by
  have hfirst : (spelling.respell item).member? "agent_id" =
      if spelling.agent then none else item.member? "agent_id" := by
    simp [spelling.member?_respell h]
  have hsecond : (spelling.respell item).member? "agentId" =
      if spelling.agent then item.member? "agent_id" else none := by
    simp [spelling.member?_respell h]
  rw [Task.agentOf_of_usesFirstNames h, Task.agentOf, Task.filter_given?, hfirst]
  cases hagent : spelling.agent with
  | false => simp [MovesZero, hagent, Task.given?, hsecond]
  | true =>
    rw [if_pos rfl, Option.filter_none, Option.none_or, Task.bind_given?, hsecond, hagent,
      if_pos rfl]
    cases hmember : item.member? "agent_id" with
    | none => simp [MovesZero, hmember]
    | some v =>
      rw [Option.filter_some, Option.bind_some]
      by_cases hzero : v.number? = some 0
      · have hblank : Task.isBlank v = true := Task.isBlank_iff.mpr (.zero hzero)
        refine .inr ⟨⟨hagent, v, hmember, hzero⟩, by simp [hblank], Task.agentRef?_of_zero hzero⟩
      · refine .inl ⟨by simp [MovesZero, hmember, hzero], ?_⟩
        by_cases hblank : Task.isBlank v = true
        · rw [Task.agentRef?_of_countsAsMissing (Task.isBlank_iff.mp hblank) hzero]
          simp [hblank]
        · simp [hblank]

/-- The task of an entry depends on its spelling by its agent alone, and whether the entry is at
fault does not. -/
theorem ofEntry_respell (h : UsesFirstNames item) :
    Task.ofEntry (spelling.respell item) = (Task.ofEntry item).map fun task =>
      { task with agentId := Task.agentOf (spelling.respell item) } := by
  rcases spelling.respell_cases item with ⟨members, respelled, hitem, hrespelled⟩ | ⟨hitem, hsame⟩
  · have hstep : Task.given? (spelling.respell item) "step" = Task.given? item "step" := by
      simp [Task.given?, spelling.member?_respell h]
    have hinstruction := spelling.instructionOf_respell h
    rw [hrespelled, hitem] at hstep hinstruction ⊢
    rw [Task.ofEntry_object, Task.ofEntry_object, hstep, hinstruction]
    cases Task.stepOf (Task.given? (.object members) "step") <;> rfl
  · rw [hsame]
    cases item with
    | object members => exact absurd rfl (hitem members)
    | _ => rfl

/-- Under another spelling an entry describes the task that it describes, if it does, or one in
which a zero that is moved stands for the agent zero. -/
theorem ofEntry_respell_cases {task : Task} (h : UsesFirstNames item)
    (htask : Task.ofEntry item = .ok task) :
    ∃ respelled, Task.ofEntry (spelling.respell item) = .ok respelled ∧
      ZeroForNone task respelled ∧ (respelled = task ↔ ¬ spelling.MovesZero item) := by
  have hagent := Task.agentId_of_ofEntry htask
  refine ⟨_, by rw [spelling.ofEntry_respell h, htask]; rfl, ?_⟩
  rcases spelling.agentOf_respell_cases h with ⟨hmoves, hsame⟩ | ⟨hmoves, hnone, hzero⟩
  · rw [hsame, ← hagent]
    exact ⟨.inl rfl, by simp [hmoves]⟩
  · rw [← hagent] at hnone
    refine ⟨.inr ⟨hnone, by rw [hzero]⟩, ?_⟩
    have hne : { task with agentId := Task.agentOf (spelling.respell item) } ≠ task := by
      intro heq
      have hid := congrArg Task.agentId heq
      rw [hnone, hzero] at hid
      cases hid
    simp [hmoves, hne]

end Spelling

namespace Task

/-- Entries under other spellings describe their tasks, but for those in which a zero is moved. The
tasks are told in pairs, each with what becomes of it. -/
theorem Describe.respell {entries : List (Json × Spelling)} {tasks : List Task}
    (hfirst : ∀ e ∈ entries, UsesFirstNames e.1) (h : Describe (entries.map Prod.fst) tasks) :
    ∃ pairs : List (Task × Task), pairs.map Prod.fst = tasks ∧
      Describe (entries.map fun e => e.2.respell e.1) (pairs.map Prod.snd) ∧
      (∀ p ∈ pairs, ZeroForNone p.1 p.2) ∧
      ((∀ p ∈ pairs, p.2 = p.1) ↔ ∀ e ∈ entries, ¬ e.2.MovesZero e.1) := by
  induction entries generalizing tasks with
  | nil =>
    cases h
    exact ⟨[], rfl, .nil, by simp, by simp⟩
  | cons e entries ih =>
    rw [List.forall_mem_cons] at hfirst
    cases h with
    | @cons _ task _ _ hitem hrest =>
      obtain ⟨pairs, rfl, hdescribed, hpairs, hsame⟩ := ih hfirst.2 hrest
      obtain ⟨respelled, hrespelled, hzero, heq⟩ := e.2.ofEntry_respell_cases hfirst.1 hitem
      refine ⟨(task, respelled) :: pairs, rfl, .cons hrespelled hdescribed, ?_, ?_⟩
      · rw [List.forall_mem_cons]
        exact ⟨hzero, hpairs⟩
      · rw [List.forall_mem_cons, List.forall_mem_cons, hsame, heq]

end Task

namespace Submission

open AgentFlow.Task

variable {entries : List (Json × Spelling)}

/-- A list whose entry is at fault fails alike under every spelling. -/
theorem normalize_respell_error {e : WorkflowError}
    (hfirst : ∀ entry ∈ entries, UsesFirstNames entry.1)
    (h : (list (entries.map Prod.fst)).normalize = .error e) :
    (list (entries.map fun entry => entry.2.respell entry.1)).normalize = .error e := by
  obtain ⟨_, item, _, described, fault, hitems, hbefore, hitem, rfl⟩ :=
    normalize_list_eq_error_iff.mp h
  obtain ⟨before, _, rfl, rfl, hrest⟩ := List.map_eq_append_iff.mp hitems
  obtain ⟨entry, rest, rfl, rfl, _⟩ := List.map_eq_cons_iff.mp hrest
  rw [List.forall_mem_append, List.forall_mem_cons] at hfirst
  obtain ⟨pairs, _, hpairs, _⟩ := hbefore.respell hfirst.1
  refine normalize_list_eq_error_iff.mpr
    ⟨_, entry.2.respell entry.1, _, _, fault, List.map_append, hpairs, ?_, by simp⟩
  rw [entry.2.ofEntry_respell hfirst.2.1, hitem]
  rfl

/-- A list that is normalized is normalized under every spelling. -/
theorem normalize_respell_ok {tasks : List Task}
    (hfirst : ∀ entry ∈ entries, UsesFirstNames entry.1)
    (h : (list (entries.map Prod.fst)).normalize = .ok tasks) :
    ∃ respelled,
      (list (entries.map fun entry => entry.2.respell entry.1)).normalize = .ok respelled ∧
      List.Forall₂ ZeroForNone tasks respelled ∧
      (respelled = tasks ↔ ∀ entry ∈ entries, ¬ entry.2.MovesZero entry.1) := by
  obtain ⟨_, hdescribed, rfl⟩ := normalize_list_eq_ok_iff.mp h
  obtain ⟨pairs, rfl, hrespelled, hzero, hsame⟩ := hdescribed.respell hfirst
  -- Both lists are put in order like the pairs, by the steps that the two tasks of a pair share.
  let sorted := pairs.mergeSort fun p r => p.1.step ≤ r.1.step
  have hmem (p : Task × Task) : p ∈ sorted ↔ p ∈ pairs := List.mem_mergeSort
  have hbefore : inOrder (pairs.map Prod.fst) = sorted.map Prod.fst := inOrder_map fun _ _ => rfl
  have hafter : inOrder (pairs.map Prod.snd) = sorted.map Prod.snd :=
    inOrder_map fun p hp => (hzero p hp).step_eq
  refine ⟨_, normalize_list_eq_ok_iff.mpr ⟨_, hrespelled, rfl⟩, ?_, ?_⟩
  · rw [hbefore, hafter, List.forall₂_map_left_iff, List.forall₂_map_right_iff, List.forall₂_same]
    exact fun p hp => hzero p ((hmem p).mp hp)
  · rw [hbefore, hafter, List.map_inj_left, ← hsame]
    exact forall_congr' fun p => by rw [hmem]

/-- **Spellings.** Entries that give agents and instructions under the first names are normalized
like the same entries with any of these members under the second names, whether they are submitted
as a list or encoded: to the same tasks, or with the same failure. The one exception is an agent
that is given as a zero. Its task has no agent, but the agent zero once the second name is used, so
that the tasks are no longer the same; apart from that they are. -/
theorem normalize_respelled {submission respelled : Submission}
    (hentries : submission.entries = .ok (entries.map Prod.fst))
    (hrespelled : respelled.entries = .ok (entries.map fun entry => entry.2.respell entry.1))
    (hfirst : ∀ entry ∈ entries, UsesFirstNames entry.1) :
    ((∀ entry ∈ entries, ¬ entry.2.MovesZero entry.1) →
      respelled.normalize = submission.normalize) ∧
    (∀ e, submission.normalize = .error e → respelled.normalize = .error e) ∧
    ∀ tasks, submission.normalize = .ok tasks →
      ∃ others, respelled.normalize = .ok others ∧ List.Forall₂ ZeroForNone tasks others ∧
        (others = tasks ↔ ∀ entry ∈ entries, ¬ entry.2.MovesZero entry.1) := by
  rw [normalize_of_entries hentries, normalize_of_entries hrespelled]
  refine ⟨fun hmoves => ?_, fun e => normalize_respell_error hfirst,
    fun tasks => normalize_respell_ok hfirst⟩
  cases hnormal : (list (entries.map Prod.fst)).normalize with
  | error e => exact normalize_respell_error hfirst hnormal
  | ok tasks =>
    obtain ⟨others, hothers, _, hsame⟩ := normalize_respell_ok hfirst hnormal
    rw [hothers, hsame.mpr hmoves]

/-- An entry that gives its agent and its instruction under their first names. -/
def firstNamesEntry (agent instruction : Json) : Json :=
  .object [("agent_id", agent), ("instruction", instruction)]

/-- It uses no second name. -/
theorem usesFirstNames_firstNamesEntry (agent instruction : Json) :
    UsesFirstNames (firstNamesEntry agent instruction) := ⟨rfl, rfl⟩

/-- Entries with both members under their second names: one with ordinary values, and one with
values that count as missing. -/
def movedEntries : List (Json × Spelling) :=
  [(firstNamesEntry (.string " 7 ") (.int 42), ⟨true, true⟩),
    (firstNamesEntry (.array []) (.float (.finite true ⟨0, -1074⟩)), ⟨true, true⟩)]

/-- The entries are normalized as if they used the first names. -/
theorem normalize_respelled_moved :
    (∀ entry ∈ movedEntries, UsesFirstNames entry.1) ∧
    (∀ entry ∈ movedEntries, ¬ entry.2.MovesZero entry.1) ∧
    (list (movedEntries.map Prod.fst)).normalize = .ok [⟨0, some 7, "42"⟩, ⟨0, none, ""⟩] ∧
    (list (movedEntries.map fun entry => entry.2.respell entry.1)).normalize =
      .ok [⟨0, some 7, "42"⟩, ⟨0, none, ""⟩] := by
  have hfirst : ∀ entry ∈ movedEntries, UsesFirstNames entry.1 := by
    simp [movedEntries, usesFirstNames_firstNamesEntry]
  have hmoves : ∀ entry ∈ movedEntries, ¬ entry.2.MovesZero entry.1 := by
    simp [movedEntries, Spelling.MovesZero, firstNamesEntry, Json.member?, lookupEntry,
      Json.number?]
  have htasks : (list (movedEntries.map Prod.fst)).normalize =
      .ok [⟨0, some 7, "42"⟩, ⟨0, none, ""⟩] := by
    have hdescribed : ofEntries 0 (movedEntries.map Prod.fst) =
        .ok [⟨0, some 7, "42"⟩, ⟨0, none, ""⟩] := by rfl
    rw [normalize_list, hdescribed]
    exact congrArg Except.ok (inOrder_pair _ _)
  have hentries : (list (movedEntries.map Prod.fst)).entries =
      .ok (movedEntries.map Prod.fst) := rfl
  have hrespelled : (list (movedEntries.map fun entry => entry.2.respell entry.1)).entries =
      .ok (movedEntries.map fun entry => entry.2.respell entry.1) := rfl
  refine ⟨hfirst, hmoves, htasks, ?_⟩
  rw [(normalize_respelled hentries hrespelled hfirst).1 hmoves, htasks]

/-- The spelling is not always of no consequence: an entry whose agent is given as a zero has no
agent, and the agent zero once that is done under the second name. -/
theorem exists_normalize_respelled_ne :
    ¬ ∀ entries : List (Json × Spelling), (∀ entry ∈ entries, UsesFirstNames entry.1) →
      (list (entries.map fun entry => entry.2.respell entry.1)).normalize =
        (list (entries.map Prod.fst)).normalize := by
  intro h
  let entry : Json × Spelling := (firstNamesEntry (.int 0) (.string "Ask"), ⟨true, false⟩)
  have hfirst : ∀ other ∈ [entry], UsesFirstNames other.1 := by
    simp [entry, usesFirstNames_firstNamesEntry]
  have htasks : (list [entry.1]).normalize = .ok [⟨0, none, "Ask"⟩] := by
    change Except.ok (inOrder [_]) = _
    rw [inOrder, List.mergeSort_singleton]
    rfl
  obtain ⟨others, hothers, _, hsame⟩ := normalize_respell_ok hfirst htasks
  have heq : [⟨0, none, "Ask"⟩] = others :=
    Except.ok.inj (htasks.symm.trans ((h [entry] hfirst).symm.trans hothers))
  exact hsame.mp heq.symm entry List.mem_cons_self ⟨rfl, .int 0, rfl, rfl⟩

end Submission

end AgentFlow
