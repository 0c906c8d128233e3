import AgentFlow.Task
import Mathlib.Data.List.Basic
import Mathlib.Data.List.Nodup

/-!
# The order of tasks

Putting tasks in order rearranges them so that their steps do not decrease. It is stable: the tasks
of each step keep the order that they had. There is one such arrangement only, so that the order in
which tasks of different steps are given is of no consequence.
-/

namespace AgentFlow.Task

/-- Tasks are the given ones in the order of their steps, those of each step in the order in which
they are given. -/
structure InStepOrder (given tasks : List Task) : Prop where
  /-- They are the same tasks. -/
  perm : tasks.Perm given
  /-- Their steps do not decrease. -/
  pairwise : tasks.Pairwise fun a b => a.step ≤ b.step
  /-- The tasks of each step keep their order. -/
  stable (k : Int) : tasks.filter (·.step = k) = given.filter (·.step = k)

/-- Steps that do not decrease twice do not decrease. -/
theorem step_le_trans (a b c : Task) (hab : decide (a.step ≤ b.step) = true)
    (hbc : decide (b.step ≤ c.step) = true) : decide (a.step ≤ c.step) = true := by
  simp only [decide_eq_true_eq] at hab hbc ⊢
  omega

/-- Of two tasks one comes no later than the other. -/
theorem step_le_total (a b : Task) :
    (decide (a.step ≤ b.step) || decide (b.step ≤ a.step)) = true := by
  simp only [Bool.or_eq_true, decide_eq_true_eq]
  omega

/-- Of two tasks the second one comes first only if its step is less. -/
theorem inOrder_pair (a b : Task) :
    inOrder [a, b] = if a.step ≤ b.step then [a, b] else [b, a] := by
  simp only [inOrder, List.mergeSort, List.MergeSort.Internal.splitInTwo]
  simp [List.merge]

/-- Tasks that are made of other things may be put in order by a key of these that is the step. -/
theorem inOrder_map {α : Type} {f : α → Task} {key : α → Int} {l : List α}
    (h : ∀ a ∈ l, (f a).step = key a) :
    inOrder (l.map f) = (l.mergeSort fun a b => key a ≤ key b).map f := by
  symm
  apply List.map_mergeSort
  intro a ha b hb
  rw [h a ha, h b hb]

/-- Tasks in order are the same tasks. -/
theorem inOrder_perm (tasks : List Task) : (inOrder tasks).Perm tasks :=
  List.mergeSort_perm tasks _

/-- The steps of tasks in order do not decrease. -/
theorem inOrder_pairwise (tasks : List Task) :
    (inOrder tasks).Pairwise fun a b => a.step ≤ b.step := by
  have hsorted := List.pairwise_mergeSort step_le_trans step_le_total tasks
  exact hsorted.imp fun h => of_decide_eq_true h

/-- The tasks of each step keep their order. -/
theorem filter_inOrder (tasks : List Task) (k : Int) :
    (inOrder tasks).filter (·.step = k) = tasks.filter (·.step = k) := by
  have hlevel :
      (tasks.filter (·.step = k)).Pairwise fun a b => decide (a.step ≤ b.step) = true := by
    apply List.pairwise_of_forall_mem_list
    intro a ha b hb
    have ha := (List.mem_filter.mp ha).2
    have hb := (List.mem_filter.mp hb).2
    simp only [decide_eq_true_eq] at ha hb ⊢
    omega
  have hsublist : (tasks.filter (·.step = k)).Sublist (inOrder tasks) :=
    List.sublist_mergeSort step_le_trans step_le_total hlevel List.filter_sublist
  -- What is left on both sides is equally long, so that a part of it is all of it.
  have hfilter := hsublist.filter (·.step = k)
  simp only [List.filter_filter, Bool.and_self] at hfilter
  exact (hfilter.eq_of_length ((inOrder_perm tasks).filter _).length_eq.symm).symm

/-- Putting tasks in order puts them in the order of their steps and keeps that of each step. -/
theorem inStepOrder_inOrder (tasks : List Task) : InStepOrder tasks (inOrder tasks) where
  perm := inOrder_perm tasks
  pairwise := inOrder_pairwise tasks
  stable := filter_inOrder tasks

/-- Lists that have the same tasks of each step have the same tasks. -/
theorem mem_iff_of_filter_step {first second : List Task}
    (h : ∀ k : Int, first.filter (·.step = k) = second.filter (·.step = k)) (task : Task) :
    task ∈ first ↔ task ∈ second := by
  have hlevel : task ∈ first.filter (·.step = task.step) ↔
      task ∈ second.filter (·.step = task.step) := by rw [h]
  simpa using hlevel

/-- Tasks whose steps do not decrease are determined by the tasks that they have of each step. -/
theorem eq_of_filter_step {first second : List Task}
    (hfirst : first.Pairwise fun a b => a.step ≤ b.step)
    (hsecond : second.Pairwise fun a b => a.step ≤ b.step)
    (h : ∀ k : Int, first.filter (·.step = k) = second.filter (·.step = k)) : first = second := by
  induction first generalizing second with
  | nil =>
    symm
    rw [List.eq_nil_iff_forall_not_mem]
    exact fun task htask => List.not_mem_nil ((mem_iff_of_filter_step h task).mpr htask)
  | cons a first ih =>
    have ha := (mem_iff_of_filter_step h a).mp List.mem_cons_self
    cases second with
    | nil => exact absurd ha List.not_mem_nil
    | cons b second =>
      have hb := (mem_iff_of_filter_step h b).mpr List.mem_cons_self
      obtain ⟨hleast, htail⟩ := List.pairwise_cons.mp hfirst
      obtain ⟨hleast', htail'⟩ := List.pairwise_cons.mp hsecond
      -- Both heads are of the least step, and of that step both lists have the same tasks.
      have hstep : b.step = a.step := by grind
      have hlevel := h a.step
      rw [List.filter_cons_of_pos (by simp), List.filter_cons_of_pos (by simp [hstep])] at hlevel
      obtain rfl : a = b := (List.cons.inj hlevel).1
      have hrest (k : Int) : first.filter (·.step = k) = second.filter (·.step = k) := by
        have hlevel := h k
        rw [List.filter_cons, List.filter_cons] at hlevel
        split at hlevel
        · exact (List.cons.inj hlevel).2
        · exact hlevel
      rw [ih htail htail' hrest]

/-- Tasks come in the same order if they have the same tasks of each step in the same order. -/
theorem inOrder_eq_of_filter {given other : List Task}
    (h : ∀ k : Int, other.filter (·.step = k) = given.filter (·.step = k)) :
    inOrder other = inOrder given := by
  apply eq_of_filter_step (inOrder_pairwise other) (inOrder_pairwise given)
  intro k
  rw [filter_inOrder, filter_inOrder, h]

/-- Tasks of different steps come in the same order however they are given. -/
theorem inOrder_eq_of_perm {given other : List Task} (hperm : other.Perm given)
    (hsteps : (given.map Task.step).Nodup) : inOrder other = inOrder given := by
  have hsame : (inOrder other).Perm (inOrder given) :=
    (inOrder_perm other).trans (hperm.trans (inOrder_perm given).symm)
  refine hsame.eq_of_pairwise ?_ (inOrder_pairwise other) (inOrder_pairwise given)
  intro a b ha hb hab hba
  have ha : a ∈ given := hperm.mem_iff.mp ((inOrder_perm other).mem_iff.mp ha)
  have hb : b ∈ given := (inOrder_perm given).mem_iff.mp hb
  exact List.inj_on_of_nodup_map hsteps ha hb (Int.le_antisymm hab hba)

end AgentFlow.Task
