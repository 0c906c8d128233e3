import AgentFlow.Proofs.Task.Entries
import AgentFlow.Proofs.Task.Order
import AgentFlow.Proofs.Task.Step

/-!
# Normalizing a list of entries

Which lists of entries become tasks, in which order the tasks then come, and which entry is to blame
for a failure.
-/

namespace AgentFlow

namespace Task

variable {items : List Json} {tasks : List Task}

/-- What describes tasks one by one has the tasks of the entries one by one. -/
theorem Describe.isTaskOf (hwords : ∀ item ∈ items, item.InWords) (h : Describe items tasks) :
    List.Forall₂ IsTaskOf items tasks := by
  induction h with
  | nil => exact .nil
  | cons hitem _ ih =>
    rw [List.forall_mem_cons] at hwords
    exact .cons ((ofEntry_eq_ok_iff hwords.1).mp hitem).2 (ih hwords.2)

/-- Entries that describe tasks one by one are entries of tasks. -/
theorem Describe.isTaskEntry (hwords : ∀ item ∈ items, item.InWords) (h : Describe items tasks) :
    ∀ item ∈ items, IsTaskEntry item := by
  induction h with
  | nil => exact List.forall_mem_nil _
  | cons hitem _ ih =>
    rw [List.forall_mem_cons] at hwords ⊢
    exact ⟨(exists_ofEntry_iff hwords.1).mp ⟨_, hitem⟩, ih hwords.2⟩

/-- An entry at fault is not one of a task. -/
theorem not_isTaskEntry {item : Json} {fault : TaskFault} (hwords : item.InWords)
    (hitem : ofEntry item = .error fault) : ¬ IsTaskEntry item := by
  intro hentry
  obtain ⟨task, htask⟩ := (exists_ofEntry_iff hwords).mpr hentry
  rw [hitem] at htask
  cases htask

end Task

namespace Submission

open AgentFlow.Task

/-- A list that is normalized has become the tasks of its entries, put in order. -/
theorem normalize_list_eq_ok_iff {items : List Json} {tasks : List Task} :
    (list items).normalize = .ok tasks ↔
      ∃ described, Describe items described ∧ tasks = inOrder described := by
  rw [normalize_list]
  constructor
  · intro h
    cases hitems : ofEntries 0 items with
    | error e =>
      rw [hitems] at h
      cases h
    | ok described =>
      rw [hitems] at h
      exact ⟨described, ofEntries_eq_ok_iff.mp hitems, (Except.ok.inj h).symm⟩
  · rintro ⟨described, hdescribed, rfl⟩
    rw [ofEntries_of_describe 0 hdescribed]
    rfl

/-- A list that is not normalized fails for its first entry at fault, whatever follows it. -/
theorem normalize_list_eq_error_iff {items : List Json} {e : WorkflowError} :
    (list items).normalize = .error e ↔
      ∃ before item rest described fault, items = before ++ item :: rest ∧
        Describe before described ∧ ofEntry item = .error fault ∧
        e = .invalidTask before.length fault := by
  have herror : (list items).normalize = .error e ↔ ofEntries 0 items = .error e := by
    rw [normalize_list]
    cases ofEntries 0 items <;> simp [Except.map]
  rw [herror, ofEntries_eq_error_iff]
  simp only [Nat.zero_add]

/-- **Normalizing.** A list of entries becomes tasks exactly if every entry is an object that states
a step. The tasks are then those of the entries, put in the order of their steps; those of one step
stay in the order submitted, and a step that is not given or null counts as zero. Otherwise the
first entry that is no such object is to blame: the failure tells its position in the list submitted
and is the same whatever follows it. -/
theorem normalize_list_iff (items : List Json) (hwords : ∀ item ∈ items, item.InWords) :
    ((∃ tasks, (list items).normalize = .ok tasks) ↔ ∀ item ∈ items, IsTaskEntry item) ∧
    (∀ tasks, (list items).normalize = .ok tasks →
      ∃ described, List.Forall₂ IsTaskOf items described ∧ InStepOrder described tasks) ∧
    (∀ item ∈ items, ∀ task, IsTaskOf item task →
      item.member? "step" = none ∨ item.member? "step" = some .null → task.step = 0) ∧
    ∀ e, (list items).normalize = .error e →
      ∃ before item rest fault, items = before ++ item :: rest ∧
        (∀ other ∈ before, IsTaskEntry other) ∧ ¬ IsTaskEntry item ∧
        ofEntry item = .error fault ∧ e = .invalidTask before.length fault ∧
        ∀ others, (list (before ++ item :: others)).normalize = .error e := by
  refine ⟨⟨?_, ?_⟩, ?_, fun _ _ _ => step_eq_zero, ?_⟩
  · rintro ⟨tasks, htasks⟩
    obtain ⟨described, hdescribed, _⟩ := normalize_list_eq_ok_iff.mp htasks
    exact hdescribed.isTaskEntry hwords
  · intro hentries
    rcases describe_or_fault items with
      ⟨described, hdescribed⟩ | ⟨before, item, rest, _, fault, hitems, _, hitem⟩
    · exact ⟨_, normalize_list_eq_ok_iff.mpr ⟨described, hdescribed, rfl⟩⟩
    · have hmem : item ∈ items := by simp [hitems]
      exact absurd (hentries item hmem) (not_isTaskEntry (hwords item hmem) hitem)
  · intro tasks htasks
    obtain ⟨described, hdescribed, rfl⟩ := normalize_list_eq_ok_iff.mp htasks
    exact ⟨described, hdescribed.isTaskOf hwords, inStepOrder_inOrder described⟩
  · intro e he
    obtain ⟨before, item, rest, described, fault, rfl, hbefore, hitem, rfl⟩ :=
      normalize_list_eq_error_iff.mp he
    obtain ⟨hwordsBefore, hwordsItem⟩ := List.forall_mem_append.mp hwords
    refine ⟨before, item, rest, fault, rfl, hbefore.isTaskEntry hwordsBefore,
      not_isTaskEntry (hwordsItem item List.mem_cons_self) hitem, hitem, rfl, ?_⟩
    intro others
    exact normalize_list_eq_error_iff.mpr
      ⟨before, item, others, described, fault, rfl, hbefore, hitem, rfl⟩

/-- Entries whose steps are written in every way there is: a text between blanks, a floating-point
number, a whole number that no signed word holds, nothing at all, and null. -/
def surveyEntries : List Json :=
  [.object [("prompt", .string "Sum up"), ("step", .string "\u00a0+7\n")],
    .object [("step", .float (.finite true ⟨0x10000000000000, -51⟩))],
    .object [("step", .int 0xFFFFFFFFFFFFFFFF)],
    .object [("agent_id", .int 1), ("instruction", .string "Ask")],
    .object [("agentId", .string "2"), ("step", .null)]]

/-- The survey's entries are entries of tasks, which come by their steps; with a broken step behind
them they are none. -/
theorem normalize_list_iff_survey :
    (∀ item ∈ surveyEntries, item.InWords) ∧
    (list surveyEntries).normalize =
      .ok [⟨-2, none, ""⟩, ⟨0, some 1, "Ask"⟩, ⟨0, some 2, ""⟩, ⟨7, none, "Sum up"⟩,
        ⟨0x7FFFFFFFFFFFFFFF, none, ""⟩] ∧
    (∀ item ∈ surveyEntries, IsTaskEntry item) ∧
    ¬ ∀ item ∈ surveyEntries ++ [.object [("step", .string "7.5")]], IsTaskEntry item := by
  have hwords : ∀ item ∈ surveyEntries, item.InWords := by
    simp [surveyEntries, Json.InWords, Json.InWordsMembers, Json.IsWord]
    decide
  have hdescribed : ofEntries 0 surveyEntries =
      .ok [⟨7, none, "Sum up"⟩, ⟨-2, none, ""⟩, ⟨0x7FFFFFFFFFFFFFFF, none, ""⟩,
        ⟨0, some 1, "Ask"⟩, ⟨0, some 2, ""⟩] := by rfl
  have htasks : (list surveyEntries).normalize =
      .ok [⟨-2, none, ""⟩, ⟨0, some 1, "Ask"⟩, ⟨0, some 2, ""⟩, ⟨7, none, "Sum up"⟩,
        ⟨0x7FFFFFFFFFFFFFFF, none, ""⟩] := by
    rw [normalize_list, hdescribed]
    simp [Except.map, inOrder, List.mergeSort, List.MergeSort.Internal.splitInTwo]
  have hbroken : (list (surveyEntries ++ [.object [("step", .string "7.5")]])).normalize =
      .error (.invalidTask 5 (.unreadableStep "7.5")) := by rfl
  have hwordsBroken : ∀ item ∈ surveyEntries ++ [.object [("step", .string "7.5")]],
      item.InWords := by
    rw [List.forall_mem_append, List.forall_mem_singleton]
    exact ⟨hwords, trivial, trivial⟩
  refine ⟨hwords, htasks, (normalize_list_iff surveyEntries hwords).1.mp ⟨_, htasks⟩, ?_⟩
  intro hentries
  obtain ⟨tasks, hok⟩ := (normalize_list_iff _ hwordsBroken).1.mpr hentries
  rw [hbroken] at hok
  cases hok

end Submission

end AgentFlow
