import AgentFlow.Proofs.Task.Normalize

/-!
# The entry that comes first

Where each entry of a list ends up among the tasks, told by its position in the list. Entries whose
steps are numbers come by these numbers; the numbers beyond the range of steps, however, are taken
for the end of the range that is nearest to them, and their entries stay in the order submitted.
-/

namespace AgentFlow

open Number

/-- The entry at a position writes its step as a number. -/
def WritesStep (items : List Json) (i : Nat) (r : Rat) : Prop :=
  ∃ item v, items[i]? = some item ∧ item.member? "step" = some v ∧ v.number? = some r

/-- Tasks are those of entries, which are taken up by their positions in the given order. -/
structure ArrangedBy (items : List Json) (tasks : List Task) (order : List Nat) : Prop where
  /-- Each entry is taken up once. -/
  perm : order.Perm (List.range items.length)
  /-- The tasks are those of the entries. -/
  tasks : List.Forall₂ (fun i task => ∃ item, items[i]? = some item ∧ IsTaskOf item task)
    order tasks

/-- Of two elements of a list one comes before the other. -/
theorem pair_sublist_or {α : Type} {a b : α} {l : List α} (ha : a ∈ l) (hb : b ∈ l) (hne : a ≠ b) :
    [a, b].Sublist l ∨ [b, a].Sublist l := by
  induction l with
  | nil => cases ha
  | cons c rest ih =>
    rcases List.mem_cons.mp ha with rfl | harest
    · have hbrest : b ∈ rest := (List.mem_cons.mp hb).resolve_left (Ne.symm hne)
      exact .inl ((List.singleton_sublist.mpr hbrest).cons_cons a)
    · rcases List.mem_cons.mp hb with rfl | hbrest
      · exact .inr ((List.singleton_sublist.mpr harest).cons_cons b)
      · exact (ih harest hbrest).imp (·.cons c) (·.cons c)

namespace Task

/-- The task at a position comes before the one at another: its step is less, or the same and it was
given earlier. -/
def InTurn (given : List Task) (i j : Nat) : Prop :=
  ∀ a b, given[i]? = some a → given[j]? = some b → a.step < b.step ∨ a.step = b.step ∧ i < j

/-- Tasks in order are the given ones, taken up by steps, and those of one step by position. -/
theorem exists_arrangement (given : List Task) :
    ∃ order : List Nat, order.Perm (List.range given.length) ∧
      List.Forall₂ (fun i task => given[i]? = some task) order (inOrder given) ∧
      order.Pairwise (InTurn given) := by
  -- Sorting by steps alone is sorting by steps and positions, once positions are put beside them.
  let sorted := given.zipIdx.mergeSort (List.zipIdxLE fun a b => a.step ≤ b.step)
  have hentry : ∀ e ∈ sorted, given[e.2]? = some e.1 := fun e he =>
    List.mem_zipIdx_iff_getElem?.mp (List.mem_mergeSort.mp he)
  have hperm : (sorted.map Prod.snd).Perm (List.range given.length) := by
    have hpositions := (List.mergeSort_perm given.zipIdx
      (List.zipIdxLE fun a b => a.step ≤ b.step)).map Prod.snd
    rwa [List.zipIdx_map_snd, ← List.range_eq_range'] at hpositions
  have htasks : inOrder given = sorted.map Prod.fst := List.mergeSort_zipIdx.symm
  refine ⟨sorted.map Prod.snd, hperm, ?_, ?_⟩
  · rw [htasks, List.forall₂_map_left_iff, List.forall₂_map_right_iff, List.forall₂_same]
    exact hentry
  · have hsorted := List.pairwise_mergeSort (List.zipIdxLE_trans step_le_trans)
      (List.zipIdxLE_total step_le_total) given.zipIdx
    have hdistinct : sorted.Pairwise fun e f => e.2 ≠ f.2 :=
      List.pairwise_map.mp (hperm.nodup_iff.mpr List.nodup_range)
    rw [List.pairwise_map]
    refine (hsorted.and hdistinct).imp_of_mem fun {e f} he hf h a b ha hb => ?_
    obtain ⟨hle, hne⟩ := h
    obtain rfl : e.1 = a := Option.some.inj ((hentry e he).symm.trans ha)
    obtain rfl : f.1 = b := Option.some.inj ((hentry f hf).symm.trans hb)
    simp only [List.zipIdxLE, decide_eq_true_eq] at hle
    grind

/-- A step that is written as a number is taken for the nearest one of the range of steps. -/
theorem step_of_writesStep {items : List Json} {given : List Task} {i : Nat} {r : Rat}
    (hgiven : List.Forall₂ IsTaskOf items given) (hstep : WritesStep items i r) :
    ∃ (n : Int) (task : Task), r = n ∧ given[i]? = some task ∧
      task.step = IntRange.int64.clamp n := by
  obtain ⟨item, v, hitem, hmember, hnumber⟩ := hstep
  obtain ⟨hi, rfl⟩ := List.getElem?_eq_some_iff.mp hitem
  have hi' : i < given.length := hgiven.length_eq ▸ hi
  obtain ⟨n, hn, htask⟩ := hgiven.get hi hi'
  refine ⟨n, given[i], ?_, List.getElem?_eq_getElem hi', congrArg Task.step htask⟩
  rw [List.get_eq_getElem, hmember] at hn
  cases hn with
  | null => cases hnumber
  | number hn => exact Option.some.inj (hnumber.symm.trans hn)
  | text => cases hnumber

/-- A task that is to come before another one does. -/
theorem sublist_of_step {given : List Task} {order : List Nat} {i j : Nat} {a b : Task}
    (hperm : order.Perm (List.range given.length)) (horder : order.Pairwise (InTurn given))
    (ha : given[i]? = some a) (hb : given[j]? = some b)
    (h : a.step < b.step ∨ a.step = b.step ∧ i < j) : [i, j].Sublist order := by
  have hmem {k : Nat} {task : Task} (htask : given[k]? = some task) : k ∈ order :=
    hperm.mem_iff.mpr (List.mem_range.mpr (List.getElem?_eq_some_iff.mp htask).1)
  have hne : i ≠ j := by
    rintro rfl
    obtain rfl : a = b := Option.some.inj (ha.symm.trans hb)
    omega
  refine (pair_sublist_or (hmem ha) (hmem hb) hne).resolve_right fun hback => ?_
  have hturn := horder.forall_sublist hback b a hb ha
  omega

end Task

namespace Submission

open AgentFlow.Task

/-- **Numbers as steps.** A list that is normalized is taken up in some order of its entries. Of two
entries whose steps are numbers the one with the lesser number comes first, unless both numbers lie
beyond the same end of the range of steps, or at it. Then, and if the numbers are the same, the one
that was submitted earlier comes first. -/
theorem normalize_list_of_numbers {items : List Json} {tasks : List Task}
    (hwords : ∀ item ∈ items, item.InWords) (htasks : (list items).normalize = .ok tasks) :
    ∃ order, ArrangedBy items tasks order ∧
      (∀ i j a b, WritesStep items i a → WritesStep items j b → a < b →
        a < IntRange.int64.greatest → IntRange.int64.least < b → [i, j].Sublist order) ∧
      ∀ i j a b, WritesStep items i a → WritesStep items j b → i < j →
        (a = b ∨ IntRange.int64.greatest ≤ a ∧ IntRange.int64.greatest ≤ b ∨
          a ≤ IntRange.int64.least ∧ b ≤ IntRange.int64.least) → [i, j].Sublist order := by
  obtain ⟨given, hdescribed, rfl⟩ := normalize_list_eq_ok_iff.mp htasks
  have hgiven := hdescribed.isTaskOf hwords
  obtain ⟨order, hperm, htaken, horder⟩ := exists_arrangement given
  refine ⟨order, ⟨hgiven.length_eq ▸ hperm, htaken.imp fun i task htask => ?_⟩, ?_, ?_⟩
  · obtain ⟨hi, rfl⟩ := List.getElem?_eq_some_iff.mp htask
    have hi' : i < items.length := hgiven.length_eq ▸ hi
    exact ⟨items[i], List.getElem?_eq_getElem hi', hgiven.get hi' hi⟩
  · intro i j a b ha hb hlt hgreatest hleast
    obtain ⟨m, first, rfl, hfirst, hm⟩ := step_of_writesStep hgiven ha
    obtain ⟨n, second, rfl, hsecond, hn⟩ := step_of_writesStep hgiven hb
    refine sublist_of_step hperm horder hfirst hsecond (.inl ?_)
    rw [hm, hn]
    exact IntRange.clamp_lt_clamp (by decide) (Int.cast_lt.mp hlt) (Int.cast_lt.mp hgreatest)
      (Int.cast_lt.mp hleast)
  · intro i j a b ha hb hij h
    obtain ⟨m, first, rfl, hfirst, hm⟩ := step_of_writesStep hgiven ha
    obtain ⟨n, second, rfl, hsecond, hn⟩ := step_of_writesStep hgiven hb
    refine sublist_of_step hperm horder hfirst hsecond (.inr ⟨?_, hij⟩)
    rw [hm, hn]
    rcases h with hsame | ⟨hm', hn'⟩ | ⟨hm', hn'⟩
    · rw [Int.cast_inj.mp hsame]
    · rw [IntRange.clamp_of_greatest_le (Int.cast_le.mp hm'),
        IntRange.clamp_of_greatest_le (Int.cast_le.mp hn')]
    · rw [IntRange.clamp_of_le_least (by decide) (Int.cast_le.mp hm'),
        IntRange.clamp_of_le_least (by decide) (Int.cast_le.mp hn')]

/-- Two entries in the wrong order, of which the first one writes the greatest number that a word
holds, and the second one a floating-point number. -/
def reversedEntries : List Json :=
  [.object [("prompt", .string "Sum up"), ("step", .int 0xFFFFFFFFFFFFFFFF)],
    .object [("prompt", .string "Ask"), ("step", .float (.finite false ⟨0x10000000000000, 1⟩))]]

/-- The second of the entries comes first. -/
theorem normalize_list_of_numbers_reversed :
    (∀ item ∈ reversedEntries, item.InWords) ∧
    (list reversedEntries).normalize =
      .ok [⟨0x20000000000000, none, "Ask"⟩, ⟨0x7FFFFFFFFFFFFFFF, none, "Sum up"⟩] ∧
    WritesStep reversedEntries 0 (0xFFFFFFFFFFFFFFFF : Int) ∧
    WritesStep reversedEntries 1 (0x20000000000000 : Int) ∧
    ∃ order, ArrangedBy reversedEntries
      [⟨0x20000000000000, none, "Ask"⟩, ⟨0x7FFFFFFFFFFFFFFF, none, "Sum up"⟩] order ∧
      [1, 0].Sublist order := by
  have hwords : ∀ item ∈ reversedEntries, item.InWords := by
    simp [reversedEntries, Json.InWords, Json.InWordsMembers, Json.IsWord]
    decide
  have htasks : (list reversedEntries).normalize =
      .ok [⟨0x20000000000000, none, "Ask"⟩, ⟨0x7FFFFFFFFFFFFFFF, none, "Sum up"⟩] := by
    have hdescribed : ofEntries 0 reversedEntries =
        .ok [⟨0x7FFFFFFFFFFFFFFF, none, "Sum up"⟩, ⟨0x20000000000000, none, "Ask"⟩] := by rfl
    rw [normalize_list, hdescribed]
    exact congrArg Except.ok (inOrder_pair _ _)
  have hfirst : WritesStep reversedEntries 0 (0xFFFFFFFFFFFFFFFF : Int) :=
    ⟨_, _, rfl, rfl, rfl⟩
  have hsecond : WritesStep reversedEntries 1 (0x20000000000000 : Int) := by
    refine ⟨_, _, rfl, rfl, ?_⟩
    rw [Json.number?, Binary.value?, Scaled.value]
    norm_num
  obtain ⟨order, harranged, hlesser, _⟩ := normalize_list_of_numbers hwords htasks
  refine ⟨hwords, htasks, hfirst, hsecond, order, harranged, ?_⟩
  exact hlesser 1 0 _ _ hsecond hfirst (Int.cast_lt.mpr (by decide)) (Int.cast_lt.mpr (by decide))
    (Int.cast_lt.mpr (by decide))

/-- Two entries of which the first one writes the least number beyond the range of steps, and the
second one the greatest number in it. -/
def crowdedEntries : List Json :=
  [.object [("prompt", .string "Later"), ("step", .int 0x8000000000000000)],
    .object [("prompt", .string "Sooner"), ("step", .int 0x7FFFFFFFFFFFFFFF)]]

/-- The entry with the lesser number does not always come first. -/
theorem exists_normalize_list_not_by_numbers :
    ¬ ∀ (items : List Json) (tasks : List Task), (∀ item ∈ items, item.InWords) →
      (list items).normalize = .ok tasks → ∃ order, ArrangedBy items tasks order ∧
        ∀ i j a b, WritesStep items i a → WritesStep items j b → a < b → [i, j].Sublist order := by
  intro h
  have hwords : ∀ item ∈ crowdedEntries, item.InWords := by
    simp [crowdedEntries, Json.InWords, Json.InWordsMembers, Json.IsWord]
    decide
  have htasks : (list crowdedEntries).normalize =
      .ok [⟨0x7FFFFFFFFFFFFFFF, none, "Later"⟩, ⟨0x7FFFFFFFFFFFFFFF, none, "Sooner"⟩] := by
    have hdescribed : ofEntries 0 crowdedEntries =
        .ok [⟨0x7FFFFFFFFFFFFFFF, none, "Later"⟩, ⟨0x7FFFFFFFFFFFFFFF, none, "Sooner"⟩] := by rfl
    rw [normalize_list, hdescribed]
    exact congrArg Except.ok (inOrder_pair _ _)
  obtain ⟨order, harranged, hlesser⟩ := h _ _ hwords htasks
  have hsublist : [1, 0].Sublist order :=
    hlesser 1 0 (0x7FFFFFFFFFFFFFFF : Int) (0x8000000000000000 : Int) ⟨_, _, rfl, rfl, rfl⟩
      ⟨_, _, rfl, rfl, rfl⟩ (Int.cast_lt.mpr (by decide))
  obtain rfl : [1, 0] = order := hsublist.eq_of_length harranged.perm.length_eq.symm
  -- The tasks come the other way round: the first of them is not that of the second entry.
  cases harranged.tasks with
  | cons hfirst _ =>
    obtain ⟨item, hitem, n, _, htask⟩ := hfirst
    cases hitem
    have hinstruction : "Later" = "Sooner" := congrArg Task.instruction htask
    exact absurd hinstruction (by decide)

end Submission

end AgentFlow
