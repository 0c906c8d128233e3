import AgentFlow.Proofs.Store.Reads

/-!
# Workflows that stay

A workflow whose id has been given out stays as it is until it is deleted: clients make new
workflows under new ids, change only agents, and delete by the id. So whatever clients do, a
workflow is there unchanged, or there is a moment at which it was still there unchanged and was then
deleted.
-/

namespace AgentFlow

open Time

/-- The changes that clients make; records with ids of their own come from catalogs. -/
def Change.ByClient : Change → Prop
  | createAgent _ | updateAgent _ _ | deleteAgent _ | createWorkflow _ | deleteWorkflow _ => True
  | insertAgent _ | insertWorkflow _ | seed _ => False

namespace Store

/-- The counters of ids are signed integers of 64 bits, from which they have not run out. -/
structure CountersFit (store : Store) : Prop where
  agents : store.lastAgentId ≤ Number.IntRange.int64.greatest
  workflows : store.lastWorkflowId ≤ Number.IntRange.int64.greatest

/-- Counters never go back, so that they fit at each moment before changes after which they do. -/
theorem CountersFit.take {store : Store} {changes : List (Instant × Change)}
    (h : (store.replay changes).CountersFit) (i : Nat) :
    (store.replay (changes.take i)).CountersFit := by
  have hsplit : store.replay changes =
      (store.replay (changes.take i)).replay (changes.drop i) := by
    rw [replay, replay, replay, ← List.foldl_append, List.take_append_drop]
  rw [hsplit] at h
  generalize store.replay (changes.take i) = moment at h ⊢
  have hagents : moment.lastAgentId ≤ (moment.replay (changes.drop i)).lastAgentId := by
    have hlast := (moment.agentCollection.last_replay (moment.agentLog (changes.drop i))).1
    rwa [← agentCollection_replay] at hlast
  have hworkflows : moment.lastWorkflowId ≤ (moment.replay (changes.drop i)).lastWorkflowId := by
    have hlast := (moment.workflowCollection.last_replay (moment.workflowLog (changes.drop i))).1
    rwa [← workflowCollection_replay] at hlast
  exact ⟨Int.le_trans hagents h.agents, Int.le_trans hworkflows h.workflows⟩

/-- A workflow is there under an id that no new workflow will get. -/
structure Holds (store : Store) (id : Int) (workflow : Workflow) : Prop where
  get? : store.workflow? id = some workflow
  le_last : id ≤ store.lastWorkflowId

variable {store : Store} {id : Int} {workflow : Workflow}

/-- The workflows of a store that a history has led to are under ids that have been given out. -/
theorem holds_ofHistory {history : List (Instant × Change)}
    (h : (ofHistory history).workflow? id = some workflow) :
    (ofHistory history).Holds id workflow :=
  ⟨h, (sound_ofHistory history).2.le_last h⟩

/-- A workflow is held under the id that a draft is given. -/
theorem holds_createWorkflow (store : Store) (draft : WorkflowDraft) (now : Instant) :
    (store.createWorkflow draft now).2.Holds (store.createWorkflow draft now).1.id
      (store.createWorkflow draft now).1 := by
  refine ⟨?_, Int.le_refl _⟩
  simp only [createWorkflow, workflow?, SortedMap.get?_insert, if_true]

/-- What is held is the same for stores with the same workflows. -/
theorem Holds.congr {other : Store} (h : store.Holds id workflow)
    (hsame : other.workflowCollection = store.workflowCollection) : other.Holds id workflow := by
  obtain ⟨hrecords, hlast⟩ := Collection.mk.inj hsame
  constructor
  · rw [workflow?, hrecords]
    exact h.get?
  · rw [hlast]
    exact h.le_last

/-- A workflow that is held stays through every change of a client but its deletion. -/
theorem Holds.change (h : store.Holds id workflow) (now : Instant) {c : Change}
    (hclient : c.ByClient) (hother : c ≠ .deleteWorkflow id) :
    (store.change now c).Holds id workflow := by
  cases c with
  | createAgent _ | updateAgent _ _ | deleteAgent _ =>
    exact h.congr (workflowCollection_change_ofAgents store now trivial)
  | createWorkflow draft =>
    have hle := h.le_last
    have hnew : id ≠ store.lastWorkflowId + 1 := by omega
    constructor
    · simp only [Store.change, createWorkflow, Workflow.ofDraft, workflow?, SortedMap.get?_insert,
        if_neg hnew]
      exact h.get?
    · change id ≤ store.lastWorkflowId + 1
      omega
  | deleteWorkflow other =>
    have hne : id ≠ other := fun heq => hother (heq ▸ rfl)
    simp only [Store.change]
    cases hfound : store.workflow? other with
    | none =>
      rw [deleteWorkflow_of_none hfound]
      exact h
    | some _ =>
      rw [deleteWorkflow_of_some hfound]
      refine ⟨?_, h.le_last⟩
      simp only [workflow?, SortedMap.get?_erase, if_neg hne]
      exact h.get?
  | insertAgent _ | insertWorkflow _ | seed _ => cases hclient

/-- A workflow that is held stays through changes of clients, or there is a deletion of it among
them, before which it has stayed all the time. -/
theorem Holds.replay (h : store.Holds id workflow) {changes : List (Instant × Change)}
    (hclient : ∀ step ∈ changes, step.2.ByClient) :
    (store.replay changes).Holds id workflow ∨
      ∃ earlier now later, changes = earlier ++ (now, .deleteWorkflow id) :: later ∧
        ∀ i ≤ earlier.length, (store.replay (earlier.take i)).Holds id workflow := by
  induction changes generalizing store with
  | nil => exact .inl h
  | cons step rest ih =>
    obtain ⟨now, c⟩ := step
    obtain ⟨hc, hrest⟩ := List.forall_mem_cons.mp hclient
    by_cases hdeleted : c = .deleteWorkflow id
    · subst hdeleted
      exact .inr ⟨[], now, rest, rfl, fun _ _ => by rw [List.take_nil]; exact h⟩
    · rcases ih (h.change now hc hdeleted) hrest with hkept | ⟨earlier, at_, later, rfl, hkept⟩
      · exact .inl hkept
      · refine .inr ⟨(now, c) :: earlier, at_, later, rfl, fun i hi => ?_⟩
        cases i with
        | zero => exact h
        | succ i => exact hkept i (Nat.le_of_succ_le_succ hi)

end Store

end AgentFlow
