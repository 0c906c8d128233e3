import AgentFlow.Proofs.Compile
import AgentFlow.Proofs.Task.Normalize
import Mathlib.Data.List.Perm.Basic

/-!
# The order in which entries are submitted

Entries may be submitted in any order that leaves those of each step in turn: the tasks are the
same, and with them the chain, down to the positions in the ids of its steps, and all runs.
-/

namespace AgentFlow

namespace Task

/-- An entry describes a task of the given step. -/
def isOfStep (k : Int) (item : Json) : Bool :=
  match ofEntry item with
  | .ok task => task.step = k
  | .error _ => false

variable {items : List Json} {tasks : List Task}

/-- Entries describe one list of tasks only. -/
theorem Describe.unique {other : List Task} (h : Describe items tasks)
    (hother : Describe items other) : other = tasks :=
  Except.ok.inj ((ofEntries_of_describe 0 hother).symm.trans (ofEntries_of_describe 0 h))

/-- The entries of a step describe the tasks of that step. -/
theorem Describe.filter (h : Describe items tasks) (k : Int) :
    Describe (items.filter (isOfStep k)) (tasks.filter (·.step = k)) := by
  refine List.rel_filter (fun {item task} hitem => ?_) h
  simp only [isOfStep, hitem]

/-- Entries in another order describe the same tasks in another order. -/
theorem Describe.exists_of_perm {reordered : List Json} (h : Describe items tasks)
    (hperm : reordered.Perm items) : ∃ other, Describe reordered other ∧ other.Perm tasks :=
  List.perm_comp_forall₂ hperm h

end Task

namespace Submission

open AgentFlow.Task

variable {items reordered : List Json} {tasks : List Task}

/-- Entries are submitted in another order, in which those of each step come as before. -/
structure Reorders (items reordered : List Json) : Prop where
  /-- They are the same entries. -/
  perm : reordered.Perm items
  /-- The entries of each step keep their order. -/
  inTurn (k : Int) : reordered.filter (isOfStep k) = items.filter (isOfStep k)

/-- Entries submitted in another order, those of each step in turn, become the same tasks. -/
theorem Reorders.normalize_eq (h : Reorders items reordered)
    (htasks : (list items).normalize = .ok tasks) : (list reordered).normalize = .ok tasks := by
  obtain ⟨given, hgiven, rfl⟩ := normalize_list_eq_ok_iff.mp htasks
  obtain ⟨other, hother, _⟩ := hgiven.exists_of_perm h.perm
  refine normalize_list_eq_ok_iff.mpr ⟨other, hother, ?_⟩
  symm
  apply inOrder_eq_of_filter
  intro k
  have hlevel := hother.filter k
  rw [h.inTurn] at hlevel
  exact (hgiven.filter k).unique hlevel

/-- Entries of which no two are of one step become the same tasks in whatever order they are
submitted. -/
theorem normalize_eq_of_perm (hperm : reordered.Perm items) (hsteps : (tasks.map Task.step).Nodup)
    (htasks : (list items).normalize = .ok tasks) : (list reordered).normalize = .ok tasks := by
  obtain ⟨given, hgiven, rfl⟩ := normalize_list_eq_ok_iff.mp htasks
  obtain ⟨other, hother, hsame⟩ := hgiven.exists_of_perm hperm
  have hdistinct : (given.map Task.step).Nodup :=
    ((inOrder_perm given).map Task.step).nodup_iff.mp hsteps
  exact normalize_list_eq_ok_iff.mpr ⟨other, hother, (inOrder_eq_of_perm hsame hdistinct).symm⟩

/-- **Reordering.** A list of entries that is normalized becomes the same tasks if its entries are
submitted in another order in which those of each step come as before, or in any order if no two are
of one step. A workflow then compiles to the same chain, or fails with the same failure, and its
runs are the same. -/
theorem normalize_reordered (htasks : (list items).normalize = .ok tasks)
    (h : Reorders items reordered ∨ reordered.Perm items ∧ (tasks.map Task.step).Nodup)
    (workflow : Workflow) (roster : Roster) :
    (list reordered).normalize = .ok tasks ∧
    { workflow with tasks := list reordered }.compile roster =
      { workflow with tasks := list items }.compile roster ∧
    ∀ {σ : Type} (worker : Worker σ) (initial : ExecutionState) (memory : σ),
      { workflow with tasks := list reordered }.run roster worker initial memory =
        { workflow with tasks := list items }.run roster worker initial memory := by
  have hreordered : (list reordered).normalize = .ok tasks := by
    rcases h with h | ⟨hperm, hsteps⟩
    · exact h.normalize_eq htasks
    · exact normalize_eq_of_perm hperm hsteps htasks
  have hchain : { workflow with tasks := list reordered }.compile roster =
      { workflow with tasks := list items }.compile roster := by
    apply Workflow.compile_congr
    · rfl
    · exact hreordered.trans htasks.symm
  exact ⟨hreordered, hchain, Workflow.run_congr hchain⟩

/-- An entry with a step for the first agent. -/
def plainEntry (step : Int) (instruction : String) : Json :=
  .object [("agent_id", .int 1), ("instruction", .string instruction), ("step", .int step)]

/-- An entry may be put behind one of another step: the tasks are the same, and the survey compiles
with them to the same chain. -/
theorem normalize_reordered_survey :
    let items := [plainEntry 2 "Compare", plainEntry 1 "Ask", plainEntry 2 "Sum up"]
    let reordered := [plainEntry 2 "Compare", plainEntry 2 "Sum up", plainEntry 1 "Ask"]
    let tasks : List Task := [⟨1, some 1, "Ask"⟩, ⟨2, some 1, "Compare"⟩, ⟨2, some 1, "Sum up"⟩]
    (list items).normalize = .ok tasks ∧ Reorders items reordered ∧
      (list reordered).normalize = .ok tasks ∧
      { Workflow.survey with tasks := list reordered }.compile Workflow.surveyRoster =
        { Workflow.survey with tasks := list items }.compile Workflow.surveyRoster := by
  intro items reordered tasks
  have htasks : (list items).normalize = .ok tasks := by
    have hdescribed : ofEntries 0 items =
        .ok [⟨2, some 1, "Compare"⟩, ⟨1, some 1, "Ask"⟩, ⟨2, some 1, "Sum up"⟩] := by rfl
    rw [normalize_list, hdescribed]
    simp [Except.map, inOrder, List.mergeSort, List.MergeSort.Internal.splitInTwo, tasks]
  have hreorders : Reorders items reordered := by
    refine ⟨.cons _ (.swap _ _ _), fun k => ?_⟩
    have hfirst (instruction : String) :
        isOfStep k (plainEntry 1 instruction) = decide (1 = k) := rfl
    have hsecond (instruction : String) :
        isOfStep k (plainEntry 2 instruction) = decide (2 = k) := rfl
    simp only [items, reordered, List.filter_cons, hfirst, hsecond]
    grind
  obtain ⟨hsame, hchain, _⟩ :=
    normalize_reordered htasks (.inl hreorders) Workflow.survey Workflow.surveyRoster
  exact ⟨htasks, hreorders, hsame, hchain⟩

end Submission

end AgentFlow
