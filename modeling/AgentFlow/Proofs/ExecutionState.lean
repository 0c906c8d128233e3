import AgentFlow.ExecutionState
import AgentFlow.Proofs.SortedMap
import Mathlib.Data.List.Induction

/-!
# The state after many updates

Applying updates one by one has a closed form for each part of the state: the messages of all
updates follow the initial ones, the result under a name is that of the last update that has one,
and the current agent is that of the last update that sets it.
-/

namespace AgentFlow.ExecutionState

/-- No update changes nothing. -/
@[simp] theorem applyAll_nil (state : ExecutionState) : state.applyAll [] = state := rfl

/-- Updates are applied from the first to the last. -/
@[simp] theorem applyAll_cons (state : ExecutionState) (update : StateUpdate)
    (updates : List StateUpdate) :
    state.applyAll (update :: updates) = (state.apply update).applyAll updates := rfl

/-- A last update is applied to what those before it have left. -/
theorem applyAll_concat (state : ExecutionState) (updates : List StateUpdate)
    (update : StateUpdate) :
    state.applyAll (updates ++ [update]) = (state.applyAll updates).apply update := by
  simp only [applyAll, List.foldl_append, List.foldl_cons, List.foldl_nil]

/-- The result under a name after an update is that of the update, if it has one. -/
theorem get?_results_apply (state : ExecutionState) (update : StateUpdate) (name : String) :
    (state.apply update).results.get? name =
      (update.results.get? name).or (state.results.get? name) :=
  SortedMap.get?_insertMany_of_nodup (SortedMap.nodup_keys String.lt_irrefl update.results)
    state.results name

/-- The messages of updates follow those that were there, in the order of the updates. -/
theorem messages_applyAll (state : ExecutionState) (updates : List StateUpdate) :
    (state.applyAll updates).messages = state.messages ++ updates.flatMap (·.messages) := by
  induction updates generalizing state with
  | nil => simp
  | cons update rest ih => rw [applyAll_cons, ih, List.flatMap_cons, ← List.append_assoc]; rfl

/-- The last update that has a result under a name determines it. -/
theorem get?_results_applyAll (state : ExecutionState) (updates : List StateUpdate)
    (name : String) :
    (state.applyAll updates).results.get? name =
      (updates.reverse.findSome? (·.results.get? name)).or (state.results.get? name) := by
  induction updates using List.reverseRecOn with
  | nil => rfl
  | append_singleton updates update ih =>
    rw [applyAll_concat, get?_results_apply, ih, List.reverse_concat, List.findSome?_cons]
    cases update.results.get? name <;> rfl

/-- The last update that sets the current agent determines it. -/
theorem currentAgent_applyAll (state : ExecutionState) (updates : List StateUpdate) :
    (state.applyAll updates).currentAgent =
      (updates.reverse.findSome? (·.currentAgent)).getD state.currentAgent := by
  induction updates using List.reverseRecOn with
  | nil => rfl
  | append_singleton updates update ih =>
    rw [applyAll_concat, apply, ih, List.reverse_concat, List.findSome?_cons]
    cases update.currentAgent <;> rfl

end AgentFlow.ExecutionState
