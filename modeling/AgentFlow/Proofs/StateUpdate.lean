import AgentFlow.Proofs.ExecutionState

/-!
# Merging updates

Updates that follow one another can be merged into one, which does to every state what they do to it
one after another. Merging is associative, although messages, results and the current agent merge by
three different rules: an update is known by what it does to all states, and what is done to a state
by one update after another does not depend on how they are grouped.
-/

namespace AgentFlow

namespace StateUpdate

/-- The update that changes nothing. -/
def idle : StateUpdate := ⟨[], .empty, none⟩

/-- The update that does what one update and then another one do. -/
def merge (first second : StateUpdate) : StateUpdate where
  messages := first.messages ++ second.messages
  results := first.results.insertMany second.results.entries
  currentAgent := second.currentAgent.or first.currentAgent

/-- The update that does what updates do from the first to the last. -/
def mergeAll (updates : List StateUpdate) : StateUpdate := updates.foldl merge idle

end StateUpdate

namespace ExecutionState

open StateUpdate

/-- Updates are applied in blocks, one block after another. -/
theorem applyAll_append (state : ExecutionState) (block rest : List StateUpdate) :
    state.applyAll (block ++ rest) = (state.applyAll block).applyAll rest :=
  List.foldl_append

/-- States with the same messages, the same current agent and the same result under every name are
the same. -/
theorem eq_of_parts {state other : ExecutionState} (hmessages : state.messages = other.messages)
    (hcurrent : state.currentAgent = other.currentAgent)
    (hresults : ∀ name, state.results.get? name = other.results.get? name) : state = other := by
  have hmaps : state.results = other.results := SortedMap.ext_get? String.lt_irrefl hresults
  cases state
  cases other
  simp_all only

/-- The idle update leaves every state as it is. -/
theorem apply_idle (state : ExecutionState) : state.apply idle = state := by
  refine eq_of_parts (List.append_nil _) rfl fun name => ?_
  rw [get?_results_apply, idle, SortedMap.get?_empty, Option.none_or]

/-- A merged update does what its two parts do one after the other. -/
theorem apply_merge (state : ExecutionState) (first second : StateUpdate) :
    state.apply (first.merge second) = (state.apply first).apply second := by
  have hresults (name : String) : (first.merge second).results.get? name =
      (second.results.get? name).or (first.results.get? name) :=
    SortedMap.get?_insertMany_of_nodup (SortedMap.nodup_keys String.lt_irrefl second.results)
      first.results name
  refine eq_of_parts (List.append_assoc _ _ _).symm ?_ fun name => ?_
  · simp only [apply, merge]
    cases second.currentAgent <;> rfl
  · rw [get?_results_apply, hresults, Option.or_assoc, get?_results_apply, get?_results_apply]

/-- A merged list of updates does what they do one after another. -/
theorem apply_mergeAll (state : ExecutionState) (updates : List StateUpdate) :
    state.apply (mergeAll updates) = state.applyAll updates := by
  induction updates using List.reverseRecOn with
  | nil => exact apply_idle state
  | append_singleton updates update ih =>
    rw [mergeAll, List.foldl_concat, ← mergeAll, apply_merge, ih, applyAll_concat]

end ExecutionState

namespace StateUpdate

open ExecutionState

/-- An update is known by what it does to every state. -/
theorem eq_of_apply_eq {update other : StateUpdate}
    (h : ∀ state : ExecutionState, state.apply update = state.apply other) : update = other := by
  have hmessages : update.messages = other.messages :=
    congrArg ExecutionState.messages (h .initial)
  have hresults : update.results = other.results := by
    apply SortedMap.ext_get? String.lt_irrefl
    intro name
    have hname := congrArg (·.results.get? name) (h .initial)
    simpa only [get?_results_apply, ExecutionState.initial, ExecutionState.ofMessages,
      SortedMap.get?_empty, Option.or_none] using hname
  -- An update that sets the current agent is told from one that does not where another one is.
  have hcurrent : update.currentAgent = other.currentAgent := by
    have hagent (agent : String) : update.currentAgent.getD agent =
        other.currentAgent.getD agent :=
      congrArg ExecutionState.currentAgent (h ⟨[], agent, .empty⟩)
    have hunnamed := hagent ""
    have hsystem := hagent "system"
    cases hupdate : update.currentAgent <;> cases hother : other.currentAgent <;> grind
  cases update
  cases other
  simp_all only

/-- Updates may be merged in any grouping. -/
theorem merge_assoc (first second third : StateUpdate) :
    (first.merge second).merge third = first.merge (second.merge third) := by
  apply eq_of_apply_eq
  intro state
  rw [apply_merge, apply_merge, apply_merge, apply_merge]

/-- Merging blocks and then these is merging all of their updates. -/
theorem mergeAll_append (block rest : List StateUpdate) :
    mergeAll (block ++ rest) = (mergeAll block).merge (mergeAll rest) := by
  apply eq_of_apply_eq
  intro state
  rw [apply_merge, apply_mergeAll, apply_mergeAll, apply_mergeAll, applyAll_append]

end StateUpdate

namespace ExecutionState

open StateUpdate

/-- The names with results are those that had one and those that updates give one. -/
theorem mem_keys_results_applyAll {state : ExecutionState} {updates : List StateUpdate}
    {name : String} :
    name ∈ (state.applyAll updates).results.keys ↔
      name ∈ state.results.keys ∨ ∃ update ∈ updates, name ∈ update.results.keys := by
  simp only [SortedMap.mem_keys_iff, get?_results_applyAll, Option.isSome_or, Bool.or_eq_true,
    List.findSome?_isSome_iff, List.mem_reverse]
  exact or_comm

/-- **Updates.** Updates that are applied one after another leave their messages, in order, behind
those that were there; under each name the last result that one of them has, and else the one that
was there; and as the current agent the last one that one of them sets, and else the one it was. No
other name has a result, and the messages that were there stay in front. Updates that follow one
another can be replaced by a single one, the same in all states and among all others; it is found by
merging them, in any grouping. -/
theorem applyAll_eq_merged (state : ExecutionState) (updates : List StateUpdate) :
    let final := state.applyAll updates
    final.messages = state.messages ++ updates.flatMap (·.messages) ∧
    state.messages <+: final.messages ∧
    (∀ name, final.results.get? name =
      (updates.filterMap (·.results.get? name)).getLast?.or (state.results.get? name)) ∧
    (∀ name, name ∈ final.results.keys ↔
      name ∈ state.results.keys ∨ ∃ update ∈ updates, name ∈ update.results.keys) ∧
    final.currentAgent =
      (updates.filterMap (·.currentAgent)).getLast?.getD state.currentAgent ∧
    (∀ before block after, state.applyAll (before ++ block ++ after) =
      state.applyAll (before ++ [mergeAll block] ++ after)) ∧
    (∀ block merged, (∀ other : ExecutionState, other.apply merged = other.applyAll block) ↔
      merged = mergeAll block) ∧
    (∀ block rest, mergeAll (block ++ rest) = (mergeAll block).merge (mergeAll rest)) ∧
    ∀ first second third : StateUpdate,
      (first.merge second).merge third = first.merge (second.merge third) := by
  intro final
  have hmessages : final.messages = state.messages ++ updates.flatMap (·.messages) :=
    messages_applyAll state updates
  refine ⟨hmessages, hmessages ▸ List.prefix_append _ _, fun name => ?_,
    fun name => mem_keys_results_applyAll, ?_, fun before block after => ?_,
    fun block merged => ⟨fun h => ?_, ?_⟩, mergeAll_append, merge_assoc⟩
  · rw [List.getLast?_filterMap]
    exact get?_results_applyAll state updates name
  · rw [List.getLast?_filterMap]
    exact currentAgent_applyAll state updates
  · simp only [applyAll_append, applyAll_cons, applyAll_nil, apply_mergeAll]
  · apply eq_of_apply_eq
    intro other
    rw [h, apply_mergeAll]
  · rintro rfl other
    exact apply_mergeAll other block

end ExecutionState

end AgentFlow
