import AgentFlow.Task
import Mathlib.Data.List.Forall2

/-!
# The entries of a task list

Entries become tasks one after another, and the first entry at fault decides the failure. Either all
entries describe tasks, which are then the result in the same order, or there is a first entry at
fault, and then nothing that follows it matters.
-/

namespace AgentFlow.Task

/-- Tasks that entries describe one by one, in the same order. -/
def Describe (items : List Json) (tasks : List Task) : Prop :=
  List.Forall₂ (fun item task => ofEntry item = .ok task) items tasks

/-- Every entry describes a task, or some first entry is at fault. -/
theorem describe_or_fault (items : List Json) :
    (∃ tasks, Describe items tasks) ∨
      ∃ before item rest tasks fault, items = before ++ item :: rest ∧ Describe before tasks ∧
        ofEntry item = .error fault := by
  induction items with
  | nil => exact .inl ⟨[], .nil⟩
  | cons item rest ih =>
    cases hitem : ofEntry item with
    | error fault => exact .inr ⟨[], item, rest, [], fault, rfl, .nil, hitem⟩
    | ok task =>
      rcases ih with ⟨tasks, htasks⟩ | ⟨before, other, after, tasks, fault, rfl, htasks, hother⟩
      · exact .inl ⟨task :: tasks, .cons hitem htasks⟩
      · exact .inr ⟨item :: before, other, after, task :: tasks, fault, rfl,
          .cons hitem htasks, hother⟩

/-- Entries that all describe tasks give these tasks. -/
theorem ofEntries_of_describe {items : List Json} {tasks : List Task} (index : Nat)
    (h : Describe items tasks) : ofEntries index items = .ok tasks := by
  induction h generalizing index with
  | nil => rfl
  | cons hitem _ ih =>
    rw [ofEntries, hitem]
    simp only [ih (index + 1), Bind.bind, Except.bind, Pure.pure, Except.pure]

/-- The first entry at fault is reported under its position, whatever follows it. -/
theorem ofEntries_of_fault {before : List Json} {tasks : List Task} {item : Json}
    {fault : TaskFault} (index : Nat) (rest : List Json) (h : Describe before tasks)
    (hitem : ofEntry item = .error fault) :
    ofEntries index (before ++ item :: rest) =
      .error (.invalidTask (index + before.length) fault) := by
  induction h generalizing index with
  | nil =>
    rw [List.nil_append, ofEntries, hitem]
    rfl
  | @cons first _ _ _ hfirst _ ih =>
    rw [List.cons_append, ofEntries, hfirst]
    simp only [ih (index + 1), Bind.bind, Except.bind, List.length_cons]
    congr 2
    omega

/-- The tasks of a list of entries are what the entries describe one by one. -/
theorem ofEntries_eq_ok_iff {index : Nat} {items : List Json} {tasks : List Task} :
    ofEntries index items = .ok tasks ↔ Describe items tasks := by
  refine ⟨fun h => ?_, ofEntries_of_describe index⟩
  rcases describe_or_fault items with
    ⟨described, hdescribed⟩ | ⟨before, item, rest, described, fault, rfl, hbefore, hitem⟩
  · rw [ofEntries_of_describe index hdescribed, Except.ok.injEq] at h
    exact h ▸ hdescribed
  · rw [ofEntries_of_fault index rest hbefore hitem] at h
    cases h

/-- A list of entries fails exactly with its first entry at fault, under its position. -/
theorem ofEntries_eq_error_iff {index : Nat} {items : List Json} {e : WorkflowError} :
    ofEntries index items = .error e ↔
      ∃ before item rest tasks fault, items = before ++ item :: rest ∧ Describe before tasks ∧
        ofEntry item = .error fault ∧ e = .invalidTask (index + before.length) fault := by
  constructor
  · intro h
    rcases describe_or_fault items with
      ⟨tasks, htasks⟩ | ⟨before, item, rest, tasks, fault, rfl, hbefore, hitem⟩
    · rw [ofEntries_of_describe index htasks] at h
      cases h
    · rw [ofEntries_of_fault index rest hbefore hitem, Except.error.injEq] at h
      exact ⟨before, item, rest, tasks, fault, rfl, hbefore, hitem, h.symm⟩
  · rintro ⟨before, item, rest, tasks, fault, rfl, hbefore, hitem, rfl⟩
    exact ofEntries_of_fault index rest hbefore hitem

end AgentFlow.Task

namespace AgentFlow.Submission

open AgentFlow.Task

/-- A list that is normalized is put in order after all of its entries have become tasks. -/
theorem normalize_list (items : List Json) :
    (list items).normalize = (ofEntries 0 items).map inOrder := by
  unfold normalize
  simp only [entries, Bind.bind, Except.bind, Pure.pure, Except.pure]
  cases ofEntries 0 items <;> rfl

/-- Normalizing fails only for a text that is no list or an entry that is no task. -/
theorem normalize_error_cases {submission : Submission} {e : WorkflowError}
    (h : submission.normalize = .error e) :
    (∃ text fault, e = .malformedTasks text fault) ∨
      ∃ index fault, e = .invalidTask index fault := by
  unfold normalize at h
  cases hentries : submission.entries with
  | error e' =>
    simp only [hentries, Bind.bind, Except.bind, Except.error.injEq] at h
    subst h
    cases submission with
    | list items => simp [entries] at hentries
    | encoded text =>
      left
      simp only [entries] at hentries
      cases hparse : (Codec.list .free).parse text with
      | error fault =>
        simp only [hparse, Except.mapError, Except.error.injEq] at hentries
        exact ⟨text, fault, hentries.symm⟩
      | ok items => simp [hparse, Except.mapError] at hentries
  | ok items =>
    right
    simp only [hentries, Bind.bind, Except.bind, Pure.pure, Except.pure] at h
    cases hitems : ofEntries 0 items with
    | ok tasks => simp [hitems] at h
    | error e' =>
      simp only [hitems, Except.error.injEq] at h
      obtain ⟨before, _, _, _, fault, _, _, _, he⟩ := ofEntries_eq_error_iff.mp hitems
      exact ⟨0 + before.length, fault, by rw [← h, he]⟩

end AgentFlow.Submission
