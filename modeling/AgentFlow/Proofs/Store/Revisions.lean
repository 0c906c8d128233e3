import AgentFlow.Proofs.Store.Reads
import Mathlib.Data.List.Induction

/-!
# Revisions of agents

Clients change agents by patches that give some of the fields. However the patches of several
clients take turns, each field ends as the last patch that gives it says. Hence patches that give
different fields do not get into each other's way: they may arrive in any order, and what each of
them gives is there in the end.
-/

namespace AgentFlow

open Time

/-! ### Fields -/

/-- The fields of agents that patches may give. -/
inductive AgentField where
  | name
  | description
  | model
  | systemPrompt

/-- The text of a field of an agent; only the description may be missing. -/
def Agent.field? (agent : Agent) : AgentField → Option String
  | .name => some agent.name
  | .description => agent.description
  | .model => some agent.model
  | .systemPrompt => some agent.systemPrompt

/-- The text that a patch gives for a field. -/
def AgentPatch.field? (patch : AgentPatch) : AgentField → Option String
  | .name => patch.name
  | .description => patch.description
  | .model => patch.model
  | .systemPrompt => patch.systemPrompt

/-- No field is given by both patches. -/
def AgentPatch.Disjoint (patch other : AgentPatch) : Prop :=
  ∀ field, patch.field? field = none ∨ other.field? field = none

/-- The agents are the same but for the time of their last change. -/
def Agent.SameButUpdate (agent other : Agent) : Prop :=
  other = { agent with updatedAt := other.updatedAt }

/-- A field is what the patch gives for it, and if it does not give the field what it was. -/
theorem Agent.field?_apply (agent : Agent) (patch : AgentPatch) (now : Instant)
    (field : AgentField) :
    (agent.apply patch now).field? field = (patch.field? field).or (agent.field? field) := by
  obtain ⟨name, description, model, systemPrompt⟩ := patch
  cases field with
  | name => cases name <;> rfl
  | description => rfl
  | model => cases model <;> rfl
  | systemPrompt => cases systemPrompt <;> rfl

/-- Agents with the same fields, ids and times of creation are the same but for the time of their
last change. -/
theorem Agent.sameButUpdate_of_fields {agent other : Agent} (hid : other.id = agent.id)
    (hcreated : other.createdAt = agent.createdAt)
    (hfields : ∀ field, other.field? field = agent.field? field) : agent.SameButUpdate other := by
  have hname : other.name = agent.name := Option.some.inj (hfields .name)
  have hdescription : other.description = agent.description := hfields .description
  have hmodel : other.model = agent.model := Option.some.inj (hfields .model)
  have hprompt : other.systemPrompt = agent.systemPrompt := Option.some.inj (hfields .systemPrompt)
  unfold SameButUpdate
  rw [← hid, ← hcreated, ← hname, ← hdescription, ← hmodel, ← hprompt]

/-! ### Revisions -/

/-- A patch with the id of the agent that it is for. -/
structure Revision where
  id : Int
  patch : AgentPatch

namespace Revision

/-- The change of a store that a revision is. -/
def change (r : Revision) : Change := .updateAgent r.id r.patch

/-- What a revision gives for a field of the agent with an id. -/
def given? (id : Int) (field : AgentField) (r : Revision) : Option String :=
  if r.id = id then r.patch.field? field else none

/-- The revisions are for different agents, or give different fields. -/
def Apart (r other : Revision) : Prop := r.id = other.id → r.patch.Disjoint other.patch

/-- What is apart from another revision has that one apart from it. -/
theorem Apart.symm {r other : Revision} (h : r.Apart other) : other.Apart r :=
  fun hid field => (h hid.symm field).symm

/-- Of revisions that are apart at most one gives a field of an agent. -/
theorem pairwise_given? {revisions : List Revision} (h : revisions.Pairwise Apart) (id : Int)
    (field : AgentField) :
    (revisions.filterMap (given? id field)).Pairwise fun _ _ => False := by
  apply h.filterMap
  intro r other hapart x hx y hy
  simp only [given?] at hx hy
  split at hx
  next hr =>
    split at hy
    next hother =>
      rcases hapart (hr.trans hother.symm) field with hnone | hnone
      · rw [hnone] at hx
        cases hx
      · rw [hnone] at hy
        cases hy
    next => cases hy
  next => cases hx

/-- Revisions that are apart give the same fields in any order. -/
theorem filterMap_given?_of_perm {revisions other : List Revision}
    (h : revisions.Pairwise Apart) (hperm : other.Perm revisions) (id : Int)
    (field : AgentField) :
    other.filterMap (given? id field) = revisions.filterMap (given? id field) := by
  have hother : other.Pairwise Apart := hperm.symm.pairwise h Apart.symm
  refine (hperm.filterMap _).eq_of_pairwise ?_ (pairwise_given? hother id field)
    (pairwise_given? h id field)
  exact fun _ _ _ _ hfalse => hfalse.elim

/-- What one of revisions that are apart gives for a field is all that is given for it. -/
theorem filterMap_given?_eq_singleton {revisions : List Revision} (h : revisions.Pairwise Apart)
    {r : Revision} (hr : r ∈ revisions) {field : AgentField} {text : String}
    (hgiven : r.patch.field? field = some text) :
    revisions.filterMap (given? r.id field) = [text] := by
  have hmem : text ∈ revisions.filterMap (given? r.id field) :=
    List.mem_filterMap.mpr ⟨r, hr, by rw [given?, if_pos rfl, hgiven]⟩
  have hone := pairwise_given? h r.id field
  cases hgivens : revisions.filterMap (given? r.id field) with
  | nil => simp [hgivens] at hmem
  | cons first others =>
    rw [hgivens] at hmem hone
    cases others with
    | nil => rw [List.mem_singleton.mp hmem]
    | cons second _ => exact ((List.pairwise_cons.mp hone).1 second List.mem_cons_self).elim

/-- Two runs bring the same revisions, but for some that follow one another: these are apart and may
come in another order. When each of them arrives is left open. -/
inductive Rearranged (run other : List (Instant × Revision)) : Prop
  | intro (before block block' after : List Revision) (hapart : block.Pairwise Apart)
    (hperm : block'.Perm block) (hrun : run.map Prod.snd = before ++ block ++ after)
    (hother : other.map Prod.snd = before ++ block' ++ after) : Rearranged run other

/-- Two patches of an agent that give different fields may change places. -/
theorem rearranged_swap {patch patch' : AgentPatch} (h : patch.Disjoint patch') (id : Int)
    (before after : List (Instant × Revision)) (now later now' later' : Instant) :
    Rearranged (before ++ [(now, ⟨id, patch⟩), (later, ⟨id, patch'⟩)] ++ after)
      (before ++ [(now', ⟨id, patch'⟩), (later', ⟨id, patch⟩)] ++ after) := by
  refine .intro (before.map Prod.snd) [⟨id, patch⟩, ⟨id, patch'⟩] [⟨id, patch'⟩, ⟨id, patch⟩]
    (after.map Prod.snd) ?_ (List.Perm.swap ..) ?_ ?_
  · exact List.pairwise_pair.mpr fun _ => h
  · simp only [List.map_append, List.map_cons, List.map_nil]
  · simp only [List.map_append, List.map_cons, List.map_nil]

end Revision

/-- What revisions have made of the agent with an id: each field is what the last of them that gives
it says. -/
structure Agent.RevisedBy (revisions : List Revision) (id : Int) (agent after : Agent) : Prop where
  id_eq : after.id = agent.id
  createdAt_eq : after.createdAt = agent.createdAt
  field?_eq : ∀ field, after.field? field =
    (revisions.filterMap (Revision.given? id field)).getLast?.or (agent.field? field)

namespace Agent.RevisedBy

variable {revisions other : List Revision} {id : Int} {agent after after' : Agent}

/-- No revision leaves an agent as it is. -/
theorem nil : RevisedBy [] id agent agent := ⟨rfl, rfl, fun _ => rfl⟩

/-- A last revision of the agent patches what those before it have left. -/
theorem concat (h : RevisedBy revisions id agent after) (patch : AgentPatch) (now : Instant) :
    RevisedBy (revisions ++ [⟨id, patch⟩]) id agent (after.apply patch now) where
  id_eq := h.id_eq
  createdAt_eq := h.createdAt_eq
  field?_eq field := by
    rw [field?_apply, h.field?_eq, List.filterMap_append, List.getLast?_append, Option.or_assoc]
    congr 1
    simp only [List.filterMap_cons, Revision.given?, if_true, List.filterMap_nil]
    cases patch.field? field <;> rfl

/-- A last revision of another agent is of no consequence. -/
theorem concat_of_ne (h : RevisedBy revisions id agent after) {r : Revision} (hne : r.id ≠ id) :
    RevisedBy (revisions ++ [r]) id agent after where
  id_eq := h.id_eq
  createdAt_eq := h.createdAt_eq
  field?_eq field := by
    rw [h.field?_eq, List.filterMap_append]
    simp [Revision.given?, hne]

/-- The last texts that revisions give determine what they make of an agent, the time of its last
change aside. -/
theorem sameButUpdate (h : RevisedBy revisions id agent after)
    (h' : RevisedBy other id agent after')
    (hsame : ∀ field, (other.filterMap (Revision.given? id field)).getLast? =
      (revisions.filterMap (Revision.given? id field)).getLast?) :
    after.SameButUpdate after' := by
  apply sameButUpdate_of_fields
  · rw [h.id_eq, h'.id_eq]
  · rw [h.createdAt_eq, h'.createdAt_eq]
  · intro field
    rw [h.field?_eq, h'.field?_eq, hsame]

end Agent.RevisedBy

namespace Store

/-- The store after revisions that arrive one after another. -/
def revise (store : Store) (run : List (Instant × Revision)) : Store :=
  store.replay (run.map fun (now, r) => (now, r.change))

/-- The stores are the same but for the times at which agents were last changed. -/
structure SameButUpdates (store other : Store) : Prop where
  agents : ∀ id, Option.Rel Agent.SameButUpdate (store.agent? id) (other.agent? id)
  lastAgentId_eq : other.lastAgentId = store.lastAgentId
  workflowCollection_eq : other.workflowCollection = store.workflowCollection

variable (store : Store)

/-- Revisions arrive in parts, one part after another. -/
theorem revise_append (run rest : List (Instant × Revision)) :
    store.revise (run ++ rest) = (store.revise run).revise rest := by
  simp only [revise, replay, List.map_append, List.foldl_append]

/-- A revision of an agent that is not there changes nothing. -/
theorem revise_of_none {r : Revision} (h : store.agent? r.id = none) (now : Instant) :
    store.revise [(now, r)] = store := by
  change (store.updateAgent r.id r.patch now).2 = store
  rw [updateAgent_of_none h]

/-- A revision patches its agent and leaves the others alone. -/
theorem agent?_revise_singleton (now : Instant) (r : Revision) (id : Int) :
    (store.revise [(now, r)]).agent? id =
      if id = r.id then (store.agent? id).map (·.apply r.patch now) else store.agent? id := by
  cases h : store.agent? r.id with
  | none =>
    rw [revise_of_none store h]
    split
    next hid => rw [hid, h, Option.map_none]
    next => rfl
  | some agent =>
    change (store.updateAgent r.id r.patch now).2.agent? id = _
    rw [updateAgent_of_some h]
    simp only [agent?, SortedMap.get?_insert]
    split
    next hid =>
      subst hid
      rw [agent?] at h
      rw [h, Option.map_some]
    next => rfl

/-- Agents are there after revisions if they were there before, and are then what the revisions have
made of them. -/
theorem agent?_revise (run : List (Instant × Revision)) (id : Int) :
    Option.Rel (Agent.RevisedBy (run.map Prod.snd) id) (store.agent? id)
      ((store.revise run).agent? id) := by
  induction run using List.reverseRecOn with
  | nil =>
    change Option.Rel _ _ (store.agent? id)
    cases store.agent? id with
    | none => exact .none
    | some agent => exact .some .nil
  | append_singleton run step ih =>
    obtain ⟨now, r⟩ := step
    rw [revise_append, agent?_revise_singleton, List.map_append, List.map_singleton]
    generalize store.agent? id = before? at ih ⊢
    generalize (store.revise run).agent? id = after? at ih ⊢
    split
    next hid =>
      subst hid
      cases ih with
      | none => exact .none
      | some h => exact .some (h.concat r.patch now)
    next hid =>
      cases ih with
      | none => exact .none
      | some h => exact .some (h.concat_of_ne (Ne.symm hid))

/-- Revisions touch no workflow. -/
theorem workflowCollection_revise (run : List (Instant × Revision)) :
    (store.revise run).workflowCollection = store.workflowCollection := by
  induction run generalizing store with
  | nil => rfl
  | cons step rest ih =>
    obtain ⟨now, r⟩ := step
    rw [← workflowCollection_change_ofAgents store now (c := r.change) trivial]
    exact ih _

/-- Revisions give out no id. -/
theorem lastAgentId_revise (run : List (Instant × Revision)) :
    (store.revise run).lastAgentId = store.lastAgentId := by
  induction run generalizing store with
  | nil => rfl
  | cons step rest ih =>
    obtain ⟨now, r⟩ := step
    have hstep : (store.revise [(now, r)]).lastAgentId = store.lastAgentId := by
      change (store.updateAgent r.id r.patch now).2.lastAgentId = _
      cases h : store.agent? r.id with
      | none => rw [updateAgent_of_none h]
      | some agent => rw [updateAgent_of_some h]
    rw [← hstep]
    exact ih _

/-- An agent that no revision is for stays as it is. -/
theorem agent?_revise_of_ne {run : List (Instant × Revision)} {id : Int}
    (h : ∀ step ∈ run, step.2.id ≠ id) : (store.revise run).agent? id = store.agent? id := by
  induction run generalizing store with
  | nil => rfl
  | cons step rest ih =>
    obtain ⟨now, r⟩ := step
    obtain ⟨hne, hrest⟩ := List.forall_mem_cons.mp h
    have hstep := agent?_revise_singleton store now r id
    rw [if_neg (Ne.symm hne)] at hstep
    rw [← hstep]
    exact ih _ hrest

/-- A revision of an agent that is not there may be left out among others. -/
theorem revise_append_cons_of_none {r : Revision} (h : store.agent? r.id = none)
    (before : List (Instant × Revision)) (now : Instant) (after : List (Instant × Revision)) :
    store.revise (before ++ (now, r) :: after) = store.revise (before ++ after) := by
  have hbefore : (store.revise before).agent? r.id = none := by
    have hrel := agent?_revise store before r.id
    rw [h] at hrel
    generalize (store.revise before).agent? r.id = after? at hrel ⊢
    cases hrel
    rfl
  rw [List.append_cons, revise_append, revise_append, revise_append, revise_of_none _ hbefore]

/-- Runs of revisions that give the same last texts lead to the same stores, times of change
aside. -/
theorem sameButUpdates_of_given? {run other : List (Instant × Revision)}
    (h : ∀ id field, ((other.map Prod.snd).filterMap (Revision.given? id field)).getLast? =
      ((run.map Prod.snd).filterMap (Revision.given? id field)).getLast?) :
    (store.revise run).SameButUpdates (store.revise other) where
  agents id := by
    have hrun := agent?_revise store run id
    have hother := agent?_revise store other id
    generalize (store.revise run).agent? id = after? at hrun ⊢
    generalize (store.revise other).agent? id = after?' at hother ⊢
    generalize store.agent? id = before? at hrun hother
    cases hrun with
    | none => cases hother; exact .none
    | some hafter =>
      cases hother with
      | some hafter' => exact .some (hafter.sameButUpdate hafter' (h id))
  lastAgentId_eq := by rw [lastAgentId_revise, lastAgentId_revise]
  workflowCollection_eq := by rw [workflowCollection_revise, workflowCollection_revise]

/-- Rearranged runs lead to the same stores, times of change aside. -/
theorem sameButUpdates_of_rearranged {run other : List (Instant × Revision)}
    (h : Revision.Rearranged run other) :
    (store.revise run).SameButUpdates (store.revise other) := by
  obtain ⟨before, block, block', after, hapart, hperm, hrun, hother⟩ := h
  apply sameButUpdates_of_given?
  intro id field
  simp only [hrun, hother, List.filterMap_append,
    Revision.filterMap_given?_of_perm hapart hperm]

/-- Among revisions that are apart none is lost. -/
theorem field?_of_apart {run : List (Instant × Revision)} {r : Revision} {agent : Agent}
    (hapart : (run.map Prod.snd).Pairwise Revision.Apart) (hr : r ∈ run.map Prod.snd)
    (hagent : (store.revise run).agent? r.id = some agent) {field : AgentField} {text : String}
    (hgiven : r.patch.field? field = some text) : agent.field? field = some text := by
  have hrevised := agent?_revise store run r.id
  rw [hagent] at hrevised
  generalize store.agent? r.id = before? at hrevised
  cases hrevised with
  | some h =>
    rw [h.field?_eq, Revision.filterMap_given?_eq_singleton hapart hr hgiven]
    rfl

/-- **Revisions.** In whatever way the patches of clients take turns, agents are neither made nor
lost by them. Each field of an agent ends as the last patch for the agent that gives the field says,
and else as it was; its id and the time of its creation stay, and an agent that no patch is for
stays as it is, as do the workflows. A patch for an agent that is not there might as well not have
been sent. Patches of an agent that give different fields may change places, and so may any number
that are apart: but for the times of change the same store results, and nothing that they give is
lost. -/
theorem revise_keeps_last (store : Store) (run : List (Instant × Revision)) :
    let final := store.revise run
    (∀ id, Option.Rel (Agent.RevisedBy (run.map Prod.snd) id)
      (store.agent? id) (final.agent? id)) ∧
    (∀ id, (∀ step ∈ run, step.2.id ≠ id) → final.agent? id = store.agent? id) ∧
    final.lastAgentId = store.lastAgentId ∧
    final.workflowCollection = store.workflowCollection ∧
    (∀ r : Revision, store.agent? r.id = none → ∀ before now after,
      store.revise (before ++ (now, r) :: after) = store.revise (before ++ after)) ∧
    (∀ patch patch' : AgentPatch, patch.Disjoint patch' →
      ∀ id before after now later now' later',
        SameButUpdates
          (store.revise (before ++ [(now, ⟨id, patch⟩), (later, ⟨id, patch'⟩)] ++ after))
          (store.revise (before ++ [(now', ⟨id, patch'⟩), (later', ⟨id, patch⟩)] ++ after))) ∧
    (∀ other, Revision.Rearranged run other → final.SameButUpdates (store.revise other)) ∧
    ((run.map Prod.snd).Pairwise Revision.Apart → ∀ r ∈ run.map Prod.snd, ∀ agent,
      final.agent? r.id = some agent → ∀ field text, r.patch.field? field = some text →
        agent.field? field = some text) := by
  intro final
  refine ⟨agent?_revise store run, fun id => agent?_revise_of_ne store,
    lastAgentId_revise store run, workflowCollection_revise store run,
    fun r => revise_append_cons_of_none store, ?_, fun other => sameButUpdates_of_rearranged store,
    ?_⟩
  · intro patch patch' hdisjoint id before after now later now' later'
    apply sameButUpdates_of_rearranged
    exact Revision.rearranged_swap hdisjoint id before after now later now' later'
  · intro hapart r hr agent hagent field text
    exact field?_of_apart store hapart hr hagent

end Store

end AgentFlow
