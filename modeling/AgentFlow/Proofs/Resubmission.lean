import AgentFlow.Proofs.Compile
import AgentFlow.Proofs.Exchange
import AgentFlow.Proofs.Task.Encoded
import AgentFlow.Proofs.Task.Normalize
import AgentFlow.Proofs.Task.Spelling

/-!
# Submitting normalized tasks again

Tasks that were normalized can be written out and submitted again. Nothing is lost by that but a
reference to an agent whose id is zero, which counts as not given under the name it is written by;
so a workflow compiles as before, unless there is such an agent.
-/

namespace AgentFlow

open Json Number

/-- The integer nearest to another one in a range lies in it. -/
theorem Number.IntRange.contains_clamp {r : IntRange} (hr : r.least ≤ r.greatest) (n : Int) :
    r.contains (r.clamp n) = true := by
  rw [contains_iff, clamp]
  omega

namespace Task

/-! ### Tasks of entries -/

/-- What a floating-point number is taken for has 64 bits. -/
theorem contains_of_clampedInt? {x : Double} {k : Int} (h : clampedInt? x = some k) :
    IntRange.int64.contains k = true := by
  obtain ⟨n, _, rfl⟩ := clampedInt?_eq_some_iff.mp h
  exact IntRange.contains_clamp (by decide) n

/-- An integer that is its own has 64 bits. -/
theorem contains_of_intOrDouble {n k : Int} (h : intOrDouble n = .inl k) :
    IntRange.int64.contains k = true := by
  rw [intOrDouble] at h
  split at h
  next hn =>
    cases h
    exact hn
  next => cases h

/-- The step of an entry has 64 bits. -/
theorem contains_of_stepOf {v? : Option Json} {k : Int} (h : stepOf v? = .ok k) :
    IntRange.int64.contains k = true := by
  have hclamped {x : Double} (h : (clampedInt? x).elim
      (.error (.fractionalStep x)) (Except.ok (ε := TaskFault)) = .ok k) :
      IntRange.int64.contains k = true := by
    cases hx : clampedInt? x with
    | none => rw [hx] at h; cases h
    | some n =>
      rw [hx] at h
      cases h
      exact contains_of_clampedInt? hx
  unfold stepOf at h
  split at h
  next => cases h; decide
  next n =>
    split at h
    next hn => cases h; exact contains_of_intOrDouble hn
    next => exact hclamped h
  next => exact hclamped h
  next s =>
    cases hs : writtenInt? s with
    | none => rw [hs] at h; cases h
    | some n =>
      rw [hs] at h
      cases h
      exact contains_of_readInt? hs
  next => cases h

/-- The agent that a value refers to has an id of 64 bits. -/
theorem contains_of_agentRef? {v : Json} {k : Int} (h : agentRef? v = some k) :
    IntRange.int64.contains k = true := by
  unfold agentRef? at h
  split at h
  next n =>
    split at h
    next hn => cases h; exact contains_of_intOrDouble hn
    next => exact contains_of_clampedInt? h
  next => exact contains_of_clampedInt? h
  next => exact contains_of_readInt? h
  next => cases h

/-- The task of an entry can be written: its step and its agent have 64 bits. -/
theorem inWords_of_ofEntry {item : Json} {task : Task} (h : ofEntry item = .ok task) :
    task.InWords := by
  constructor
  · cases item with
    | object members =>
      rw [ofEntry_object] at h
      cases hstep : stepOf (given? (.object members) "step") with
      | error fault => rw [hstep] at h; cases h
      | ok k =>
        rw [hstep] at h
        cases h
        exact contains_of_stepOf hstep
    | _ => cases h
  · intro id hid
    rw [agentId_of_ofEntry h, agentOf] at hid
    obtain ⟨v, _, hv⟩ := Option.bind_eq_some_iff.mp hid
    exact contains_of_agentRef? hv

/-- The tasks of entries can be written. -/
theorem Describe.inWords {items : List Json} {tasks : List Task} (h : Describe items tasks) :
    ∀ task ∈ tasks, task.InWords := by
  induction h with
  | nil => exact List.forall_mem_nil _
  | cons hitem _ ih => exact List.forall_mem_cons.mpr ⟨inWords_of_ofEntry hitem, ih⟩

/-! ### Entries of tasks -/

/-- The entry that a task is written as, in canonical form. -/
def toEntry (task : Task) : Json := (codec.write task).canonical

/-- The task without a reference to the agent zero. -/
def withoutZero (task : Task) : Task := { task with agentId := task.agentId.filter (· ≠ 0) }

/-- The members of the entry of a task. -/
theorem toEntry_eq (task : Task) :
    task.toEntry = .object
      [("agent_id", Json.ofOption .int task.agentId), ("instruction", .string task.instruction),
        ("step", .int task.step)] := by
  obtain ⟨step, agentId, instruction⟩ := task
  cases agentId <;> rfl

/-- A reference that is written stands for itself, unless it is zero: then none is given. -/
theorem agentOf_toEntry {task : Task} (h : task.InWords) :
    agentOf task.toEntry = task.agentId.filter (· ≠ 0) := by
  have hfirst : task.toEntry.member? "agent_id" = some (Json.ofOption .int task.agentId) := by
    rw [toEntry_eq]
    rfl
  have hsecond : given? task.toEntry "agentId" = none := by
    rw [toEntry_eq]
    rfl
  rw [agentOf, filter_given?, hfirst, hsecond, Option.or_none, Option.filter_some]
  cases hid : task.agentId with
  | none => rfl
  | some id =>
    have hown : intOrDouble id = .inl id := if_pos (h.2 id hid)
    by_cases hzero : id = 0
    · subst hzero
      rfl
    · simp [Json.ofOption, isBlank, agentRef?, hown, hzero, Option.filter_some]

/-- An instruction that is written stands for itself. -/
theorem instructionOf_toEntry (task : Task) : instructionOf task.toEntry = task.instruction := by
  have hfirst : task.toEntry.member? "instruction" = some (.string task.instruction) := by
    rw [toEntry_eq]
    rfl
  have hsecond : task.toEntry.member? "prompt" = none := by
    rw [toEntry_eq]
    rfl
  rw [instructionOf, filter_given?, filter_given?, hfirst, hsecond, Option.filter_none,
    Option.or_none, Option.filter_some]
  by_cases hempty : task.instruction = ""
  · rw [hempty]
    rfl
  · simp [isBlank, hempty, renderText]

/-- The entry of a task describes that task, but for a reference to the agent zero. -/
theorem ofEntry_toEntry {task : Task} (h : task.InWords) :
    ofEntry task.toEntry = .ok task.withoutZero := by
  have hstep : given? task.toEntry "step" = some (.int task.step) := by
    rw [toEntry_eq]
    rfl
  have hown : intOrDouble task.step = .inl task.step := if_pos h.1
  have hagent := agentOf_toEntry h
  have hinstruction := instructionOf_toEntry task
  rw [toEntry_eq] at hstep hagent hinstruction ⊢
  rw [ofEntry_object, hstep, hagent, hinstruction]
  simp only [stepOf, hown, Except.map, withoutZero]

/-- The entries of tasks describe these, but for references to the agent zero. -/
theorem describe_toEntry {tasks : List Task} (h : ∀ task ∈ tasks, task.InWords) :
    Describe (tasks.map toEntry) (tasks.map withoutZero) := by
  rw [Describe, List.forall₂_map_left_iff, List.forall₂_map_right_iff, List.forall₂_same]
  exact fun task htask => ofEntry_toEntry (h task htask)

/-- Tasks in order are in order, also without references to the agent zero. -/
theorem inOrder_map_withoutZero (tasks : List Task) :
    inOrder ((inOrder tasks).map withoutZero) = (inOrder tasks).map withoutZero := by
  have hstep : ∀ task ∈ inOrder tasks, task.withoutZero.step = task.step := fun _ _ => rfl
  rw [inOrder_map hstep]
  congr 1
  apply List.mergeSort_of_pairwise
  exact (inOrder_pairwise tasks).imp fun h => decide_eq_true h

end Task

namespace Submission

open AgentFlow.Task

/-- The submission of tasks that are written out. -/
def ofTasks (tasks : List Task) : Submission := .list (tasks.map toEntry)

/-- Tasks that were normalized are those of entries, put in order. -/
theorem exists_describe_of_normalize {submission : Submission} {tasks : List Task}
    (h : submission.normalize = .ok tasks) :
    ∃ items described, Describe items described ∧ tasks = inOrder described := by
  cases hentries : submission.entries with
  | error e =>
    rw [normalize, hentries] at h
    cases h
  | ok items =>
    rw [normalize_of_entries hentries] at h
    exact ⟨items, normalize_list_eq_ok_iff.mp h⟩

/-- Tasks that were normalized can be written. -/
theorem inWords_of_normalize {submission : Submission} {tasks : List Task}
    (h : submission.normalize = .ok tasks) : ∀ task ∈ tasks, task.InWords := by
  obtain ⟨items, described, hdescribe, rfl⟩ := exists_describe_of_normalize h
  intro task htask
  exact hdescribe.inWords task ((inOrder_perm described).mem_iff.mp htask)

/-- Tasks that were normalized are normalized to themselves, but for references to the agent
zero. -/
theorem normalize_ofTasks {submission : Submission} {tasks : List Task}
    (h : submission.normalize = .ok tasks) :
    (ofTasks tasks).normalize = .ok (tasks.map withoutZero) := by
  have hwords := inWords_of_normalize h
  obtain ⟨items, described, _, rfl⟩ := exists_describe_of_normalize h
  refine normalize_list_eq_ok_iff.mpr ⟨_, describe_toEntry hwords, ?_⟩
  exact (inOrder_map_withoutZero described).symm

/-- Tasks that can be written are submitted by the text that writes them. -/
theorem parse_ofTasks {tasks : List Task} (h : ∀ task ∈ tasks, task.InWords) :
    codec.parse ((Codec.list Task.codec).textOf tasks) = .ok (ofTasks tasks) := by
  have hback : (Codec.list Task.codec).GivesBack 2 tasks :=
    Codec.givesBack_list fun task htask => Task.givesBack 0 (h task htask)
  apply Codec.parse_compactText
  refine readsBack_of_ofValue hback.integersOnly (Nat.le_trans hback.nesting (by decide)) ?_
  change Except.ok (list ((tasks.map Task.codec.write).map canonical)) = _
  rw [List.map_map]
  rfl

/-- The text that writes tasks, submitted as a text, has the same entries as the tasks. -/
theorem entries_encoded_textOf {tasks : List Task} (h : ∀ task ∈ tasks, task.InWords) :
    (encoded ((Codec.list Task.codec).textOf tasks)).entries = .ok (tasks.map toEntry) := by
  have hback (task : Task) (htask : task ∈ tasks) := Task.givesBack 0 (h task htask)
  have hintegers : ∀ item ∈ tasks.map Task.codec.write, item.IntegersOnly :=
    List.forall_mem_map.mpr fun task htask => (hback task htask).integersOnly
  have hnesting : ∀ item ∈ tasks.map Task.codec.write, item.nesting ≤ 126 :=
    List.forall_mem_map.mpr fun task htask => Nat.le_trans (hback task htask).nesting (by decide)
  have hentries := entries_encoded hintegers hnesting
  rw [List.map_map] at hentries
  exact hentries

end Submission

/-- A roster without an agent of an id stays as it is when that agent goes. -/
theorem Roster.erase_of_get?_eq_none {roster : Roster} {i : Int} (h : roster.get? i = none) :
    roster.erase i = roster := by
  apply SortedMap.ext_get? Int.lt_irrefl
  intro j
  rw [SortedMap.get?_erase]
  split
  next hj => rw [hj, h]
  next => rfl

/-- A task without a reference to the agent zero finds the agent that it finds where that agent is
gone. -/
theorem Roster.resolve_withoutZero (roster : Roster) (task : Task) :
    roster.resolve task.withoutZero = Roster.resolve (roster.erase 0) task := by
  unfold Roster.resolve Task.withoutZero
  cases hid : task.agentId with
  | none => rfl
  | some id =>
    rw [Option.bind_some, SortedMap.get?_erase]
    by_cases hzero : id = 0
    · simp [hzero]
    · simp [hzero, Option.filter_some]

/-- Tasks without references to the agent zero have the steps that they have where that agent is
gone. -/
theorem nodesFrom_withoutZero (roster : Roster) (start : Nat) (tasks : List Task) :
    nodesFrom roster start (tasks.map Task.withoutZero) =
      nodesFrom (roster.erase 0) start tasks := by
  induction tasks generalizing start with
  | nil => rfl
  | cons task rest ih =>
    have hnode : task.withoutZero.node? roster start = task.node? (roster.erase 0) start := by
      rw [Task.node?, Roster.resolve_withoutZero]
      rfl
    rw [List.map_cons, nodesFrom, nodesFrom, hnode, ih]

namespace Workflow

/-- The workflow with other tasks. -/
def withTasks (workflow : Workflow) (tasks : Submission) : Workflow := { workflow with tasks }

/-- A workflow that is submitted with its normalized tasks compiles as it does where the agent zero
is gone. -/
theorem compile_withTasks {workflow : Workflow} {tasks : List Task} {again : Submission}
    (htasks : workflow.tasks.normalize = .ok tasks)
    (hagain : again.normalize = .ok (tasks.map Task.withoutZero)) (roster : Roster) :
    (workflow.withTasks again).compile roster = workflow.compile (roster.erase 0) := by
  have hsubmitted : (workflow.withTasks again).tasks.normalize =
      .ok (tasks.map Task.withoutZero) := hagain
  rw [compile_of_normalize hsubmitted, compile_of_normalize htasks, nodesFrom_withoutZero]
  rfl

/-- **Canonical form.** Normalized tasks that are written out are read as a submission, which is
normalized to the same tasks but for references to the agent zero: these are taken for none. Hence a
workflow that is submitted with its normalized tasks, as a list or as the text of it, compiles to
the same chain or fails alike where there is no agent zero; in general it compiles as if that agent
were gone. -/
theorem compile_ofTasks (workflow : Workflow) {tasks : List Task}
    (htasks : workflow.tasks.normalize = .ok tasks) (roster : Roster) :
    let text := (Codec.list Task.codec).textOf tasks
    Submission.codec.parse text = .ok (.ofTasks tasks) ∧
    (Submission.ofTasks tasks).normalize = .ok (tasks.map Task.withoutZero) ∧
    (roster.get? 0 = none →
      (workflow.withTasks (.ofTasks tasks)).compile roster = workflow.compile roster ∧
      (workflow.withTasks (.encoded text)).compile roster = workflow.compile roster) ∧
    (workflow.withTasks (.ofTasks tasks)).compile roster = workflow.compile (roster.erase 0) := by
  intro text
  have hwords := Submission.inWords_of_normalize htasks
  have hlist := Submission.normalize_ofTasks htasks
  have htext : (Submission.encoded text).normalize = .ok (tasks.map Task.withoutZero) := by
    rw [Submission.normalize_of_entries (Submission.entries_encoded_textOf hwords)]
    exact hlist
  refine ⟨Submission.parse_ofTasks hwords, hlist, fun hzero => ?_,
    compile_withTasks htasks hlist roster⟩
  have hgone : roster.erase 0 = roster := Roster.erase_of_get?_eq_none hzero
  constructor
  · rw [compile_withTasks htasks hlist, hgone]
  · rw [compile_withTasks htasks htext, hgone]

/-- A workflow of a task for the agent zero, and of one whose step and agent are texts and whose
instruction is none. -/
def loosely : Workflow :=
  .ofDraft 1 ⟨"Loosely", none, .draft, .list
    [.object [("agentId", .int 0), ("instruction", .string "Wait"), ("step", .int 2)],
      .object [("agent_id", .string " 1"), ("prompt", .array [.bool true]),
        ("step", .string "-1")]]⟩
    ⟨⟨2024, 1, 1⟩, 0, 0, 0⟩

/-- The only agent that is there for it. -/
def looselyRoster : Roster :=
  .ofAgents [.ofDraft 1 ⟨"Ann", none, defaultModel, ""⟩ ⟨⟨2024, 1, 1⟩, 0, 0, 0⟩]

/-- Such a workflow has one step, and has it still when its normalized tasks are submitted. -/
theorem compile_ofTasks_loosely :
    let tasks : List Task := [⟨-1, some 1, "[true]"⟩, ⟨2, some 0, "Wait"⟩]
    loosely.tasks.normalize = .ok tasks ∧ looselyRoster.get? 0 = none ∧
    (loosely.withTasks (.ofTasks tasks)).compile looselyRoster = loosely.compile looselyRoster ∧
    (Submission.ofTasks tasks).normalize =
      .ok [⟨-1, some 1, "[true]"⟩, ⟨2, none, "Wait"⟩] ∧
    ∃ chain, loosely.compile looselyRoster = .ok chain ∧ chain.nodeIds = ["step_1_Ann"] := by
  intro tasks
  have htasks : loosely.tasks.normalize = .ok tasks := by
    have hentries : loosely.tasks.normalize =
        .ok (Task.inOrder [⟨2, some 0, "Wait"⟩, ⟨-1, some 1, "[true]"⟩]) := by rfl
    rw [hentries, Task.inOrder_pair]
    rfl
  have hzero : looselyRoster.get? 0 = none := by decide
  obtain ⟨_, hagain, hsame, _⟩ := compile_ofTasks loosely htasks looselyRoster
  have hsteps : nodesFrom looselyRoster 0 tasks ≠ [] := by decide
  obtain ⟨chain, hok, _, hnodes⟩ := exists_compile_of_ne_nil htasks hsteps
  refine ⟨htasks, hzero, (hsame hzero).1, hagain, chain, hok, ?_⟩
  rw [Chain.nodeIds, hnodes]
  decide

end Workflow

end AgentFlow
