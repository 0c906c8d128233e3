import AgentFlow.Api.Answer
import AgentFlow.Proofs.Api.Paths
import AgentFlow.Proofs.Store.Log

/-!
# What requests change

A request changes the store at most once, and only if it asks for that, by its method, its path and
what these and its body hold. Whatever else is asked for, and whatever is answered with a failure,
leaves the store as it is.
-/

namespace AgentFlow.Api

open Http Time

variable {σ : Type}

/-- A request asks for a change at a resource: records are made of what is in the body, and changed
or taken away by the id in the path. -/
inductive AsksFor (r : Request) : Resource → Change → Prop where
  | createAgent {draft : AgentDraft} (hmethod : r.method = .post)
      (hbody : requestedBody AgentDraft.codec r = .ok draft) :
      AsksFor r .agents (.createAgent draft)
  | updateAgent {segment : String} {id : Int} {patch : AgentPatch} (hmethod : r.method = .put)
      (hid : requestedId segment = .ok id) (hbody : requestedBody AgentPatch.codec r = .ok patch) :
      AsksFor r (.agent segment) (.updateAgent id patch)
  | deleteAgent {segment : String} {id : Int} (hmethod : r.method = .delete)
      (hid : requestedId segment = .ok id) : AsksFor r (.agent segment) (.deleteAgent id)
  | createWorkflow {draft : WorkflowDraft} (hmethod : r.method = .post)
      (hbody : requestedBody WorkflowDraft.codec r = .ok draft) :
      AsksFor r .workflows (.createWorkflow draft)
  | deleteWorkflow {segment : String} {id : Int} (hmethod : r.method = .delete)
      (hid : requestedId segment = .ok id) : AsksFor r (.workflow segment) (.deleteWorkflow id)

/-! ### Actions -/

namespace Action

/-- The change of the store that an action is. -/
def change? : Action → Option Change
  | createAgent draft => some (.createAgent draft)
  | updateAgent id patch => some (.updateAgent id patch)
  | deleteAgent id => some (.deleteAgent id)
  | createWorkflow draft => some (.createWorkflow draft)
  | deleteWorkflow id => some (.deleteWorkflow id)
  | welcome | health | chat _ | listAgents | showAgent _ | listWorkflows | showWorkflow _
  | runWorkflow _ | streamWorkflow _ => none

/-- An action does to the store what its change does, if it is one, and nothing else. -/
theorem store_perform (worker : Worker σ) (now : Instant) (store : Store) (memory : σ)
    (action : Action) :
    (action.perform worker now store memory).2.1 =
      action.change?.elim store (store.change now) := by
  cases action <;> rfl

/-- An action that does not succeed leaves the store as it is. -/
theorem store_perform_of_status (worker : Worker σ) (now : Instant) (store : Store) (memory : σ)
    (action : Action) (h : (action.perform worker now store memory).1.status ≠ 200) :
    (action.perform worker now store memory).2.1 = store := by
  cases action with
  | createAgent draft => exact absurd rfl h
  | createWorkflow draft => exact absurd rfl h
  | updateAgent id patch =>
    cases hfound : store.agent? id with
    | none => simp only [perform, Store.updateAgent_of_none hfound]
    | some agent => exact absurd (by simp only [perform, Store.updateAgent_of_some hfound]; rfl) h
  | deleteAgent id =>
    cases hfound : store.agent? id with
    | none => simp only [perform, Store.deleteAgent_of_none hfound]
    | some agent => exact absurd (by simp only [perform, Store.deleteAgent_of_some hfound]; rfl) h
  | deleteWorkflow id =>
    cases hfound : store.workflow? id with
    | none => simp only [perform, Store.deleteWorkflow_of_none hfound]
    | some workflow =>
      exact absurd (by simp only [perform, Store.deleteWorkflow_of_some hfound]; rfl) h
  | welcome | health | chat _ | listAgents | showAgent _ | listWorkflows | showWorkflow _
  | runWorkflow _ | streamWorkflow _ => rfl

end Action

/-! ### Requests -/

/-- Only the head of an answer is asked for by another method than the answer itself. -/
theorem eq_of_answered_eq {m asked : Method} (h : m.answered = asked) (hget : asked ≠ .get) :
    m = asked := by
  cases m with
  | head => exact absurd h.symm hget
  | get | post | put | delete | options | other _ => exact h

/-- The change that an action is was asked for. -/
theorem asksFor_of_action {r : Request} {resource : Resource} {action : Action} {c : Change}
    (h : resource.action r = .ok action) (hc : action.change? = some c) : AsksFor r resource c := by
  unfold Resource.action at h
  split at h
  -- What is shown without looking further
  case h_1 | h_2 | h_4 | h_9 =>
    cases h
    cases hc
  -- Chats, single records and runs
  case h_3 | h_6 | h_11 | h_13 | h_14 =>
    obtain ⟨_, _, rfl⟩ := map_eq_ok_iff.mp h
    cases hc
  case h_5 hmethod =>
    obtain ⟨draft, hbody, rfl⟩ := map_eq_ok_iff.mp h
    cases hc
    exact .createAgent (eq_of_answered_eq hmethod nofun) hbody
  case h_7 hmethod =>
    obtain ⟨id, hid, h⟩ := bind_eq_ok_iff.mp h
    obtain ⟨patch, hbody, h⟩ := bind_eq_ok_iff.mp h
    cases h
    cases hc
    exact .updateAgent (eq_of_answered_eq hmethod nofun) hid hbody
  case h_8 hmethod =>
    obtain ⟨id, hid, rfl⟩ := map_eq_ok_iff.mp h
    cases hc
    exact .deleteAgent (eq_of_answered_eq hmethod nofun) hid
  case h_10 hmethod =>
    obtain ⟨draft, hbody, rfl⟩ := map_eq_ok_iff.mp h
    cases hc
    exact .createWorkflow (eq_of_answered_eq hmethod nofun) hbody
  case h_12 hmethod =>
    obtain ⟨id, hid, rfl⟩ := map_eq_ok_iff.mp h
    cases hc
    exact .deleteWorkflow (eq_of_answered_eq hmethod nofun) hid
  case h_15 => cases h

/-- What is asked for is an action. -/
theorem exists_action_of_asksFor {r : Request} {resource : Resource} {c : Change}
    (h : AsksFor r resource c) :
    ∃ action, resource.action r = .ok action ∧ action.change? = some c := by
  cases h with
  | @createAgent draft hmethod hbody =>
    refine ⟨.createAgent draft, ?_, rfl⟩
    simp only [Resource.action, hmethod, Method.answered]
    exact map_eq_ok_iff.mpr ⟨draft, hbody, rfl⟩
  | @updateAgent segment id patch hmethod hid hbody =>
    refine ⟨.updateAgent id patch, ?_, rfl⟩
    simp only [Resource.action, hmethod, Method.answered]
    exact bind_eq_ok_iff.mpr ⟨id, hid, bind_eq_ok_iff.mpr ⟨patch, hbody, rfl⟩⟩
  | @deleteAgent segment id hmethod hid =>
    refine ⟨.deleteAgent id, ?_, rfl⟩
    simp only [Resource.action, hmethod, Method.answered]
    exact map_eq_ok_iff.mpr ⟨id, hid, rfl⟩
  | @createWorkflow draft hmethod hbody =>
    refine ⟨.createWorkflow draft, ?_, rfl⟩
    simp only [Resource.action, hmethod, Method.answered]
    exact map_eq_ok_iff.mpr ⟨draft, hbody, rfl⟩
  | @deleteWorkflow segment id hmethod hid =>
    refine ⟨.deleteWorkflow id, ?_, rfl⟩
    simp only [Resource.action, hmethod, Method.answered]
    exact map_eq_ok_iff.mpr ⟨id, hid, rfl⟩

/-- A request asks for an action that is a change if it asks for the change where its path leads. -/
theorem ofRequest_change?_iff {r : Request} {c : Change} :
    (∃ action, Action.ofRequest r = .ok action ∧ action.change? = some c) ↔
      ∃ resource : Resource, resource.LiesAt r.path ∧ AsksFor r resource c := by
  constructor
  · rintro ⟨action, h, hc⟩
    rw [Action.ofRequest] at h
    cases hpath : Resource.ofPath? r.path with
    | none =>
      rw [hpath] at h
      cases h
    | some resource =>
      rw [hpath] at h
      exact ⟨resource, Resource.ofPath?_eq_some_iff.mp hpath, asksFor_of_action h hc⟩
  · rintro ⟨resource, hpath, hasks⟩
    obtain ⟨action, h, hc⟩ := exists_action_of_asksFor hasks
    refine ⟨action, ?_, hc⟩
    rw [Action.ofRequest, Resource.ofPath?_eq_some_iff.mpr hpath]
    exact h

/-! ### Answers -/

variable (worker : Worker σ) (now : Instant) {r : Request} (store : Store) (memory : σ)

/-- A request that is not understood leaves the store as it is. -/
theorem store_answer_of_error {rejection : Rejection} (h : Action.ofRequest r = .error rejection) :
    (answer worker now r store memory).2.1 = store := by
  simp only [answer, h]

/-- A request that is understood does to the store what its action does. -/
theorem store_answer_of_ok {action : Action} (h : Action.ofRequest r = .ok action) :
    (answer worker now r store memory).2.1 = (action.perform worker now store memory).2.1 := by
  simp only [answer, h]

/-- A request that is understood is answered with the status of what is done. -/
theorem status_answer_of_ok {action : Action} (h : Action.ofRequest r = .ok action) :
    (answer worker now r store memory).1.status =
      (action.perform worker now store memory).1.status := by
  simp only [answer, h]
  split
  · rfl
  · rfl

/-- A request that is not answered with success leaves the store as it is. -/
theorem store_answer_of_status (h : (answer worker now r store memory).1.status ≠ 200) :
    (answer worker now r store memory).2.1 = store := by
  cases hasked : Action.ofRequest r with
  | error rejection => exact store_answer_of_error worker now store memory hasked
  | ok action =>
    rw [status_answer_of_ok worker now store memory hasked] at h
    rw [store_answer_of_ok worker now store memory hasked]
    exact action.store_perform_of_status worker now store memory h

/-- A request makes the change that it asks for. -/
theorem store_answer_of_asksFor {resource : Resource} {c : Change} (hpath : resource.LiesAt r.path)
    (hasks : AsksFor r resource c) :
    (answer worker now r store memory).2.1 = store.change now c := by
  obtain ⟨action, h, hc⟩ := ofRequest_change?_iff.mpr ⟨resource, hpath, hasks⟩
  rw [store_answer_of_ok worker now store memory h, Action.store_perform, hc]
  rfl

-- Ids may be written with percent signs, and queries are not looked at.
example : (answer worker now ⟨.delete, "/api/v1/agents/%37?force", [], .empty⟩ store memory).2.1 =
    (store.deleteAgent 7).2 :=
  store_answer_of_asksFor worker now store memory (c := .deleteAgent 7)
    (show (Resource.agent "%37").LiesAt _ from ⟨⟨by decide, by decide⟩, by rfl⟩)
    (.deleteAgent rfl (by cbv))

/-- A request that asks for no change leaves the store as it is. -/
theorem store_answer_of_not_asksFor
    (h : ∀ resource c, Resource.LiesAt r.path resource → ¬AsksFor r resource c) :
    (answer worker now r store memory).2.1 = store := by
  cases hasked : Action.ofRequest r with
  | error rejection => exact store_answer_of_error worker now store memory hasked
  | ok action =>
    rw [store_answer_of_ok worker now store memory hasked, Action.store_perform]
    cases hc : action.change? with
    | none => rfl
    | some c =>
      obtain ⟨resource, hpath, hasks⟩ := ofRequest_change?_iff.mp ⟨action, hasked, hc⟩
      exact absurd hasks (h resource c hpath)

/-- A request to look at something leaves the store as it is. -/
theorem store_answer_of_get (h : r.method = .get ∨ r.method = .head) :
    (answer worker now r store memory).2.1 = store := by
  apply store_answer_of_not_asksFor
  intro resource c _ hasks
  cases hasks <;> simp_all only [reduceCtorEq, or_self]

/-- A request leaves the store as it is if its path leads where no change is asked for. -/
theorem store_answer_of_liesAt {resource : Resource} (hpath : resource.LiesAt r.path)
    (h : ∀ c, ¬AsksFor r resource c) : (answer worker now r store memory).2.1 = store := by
  apply store_answer_of_not_asksFor
  intro other c hother
  obtain rfl : other = resource := hother.unique hpath
  exact h c

/-- **Changes.** A request leaves the store as it is, or it succeeds and makes the one change that
it asks for: a record that is created from its body, or one at its path that is changed or deleted.
A failure never changes the store, nor does a look at something, a chat or a run. -/
theorem store_answer (r : Request) :
    let response := (answer worker now r store memory).1
    let after := (answer worker now r store memory).2.1
    (after = store ∨
      response.status = 200 ∧ ∃ resource c,
        resource.LiesAt r.path ∧ AsksFor r resource c ∧ after = store.change now c) ∧
    (∀ resource c, resource.LiesAt r.path → AsksFor r resource c → after = store.change now c) ∧
    (response.status ≠ 200 → after = store) ∧
    (r.method = .get ∨ r.method = .head → after = store) ∧
    (Resource.chat.LiesAt r.path → after = store) ∧
    ∀ id, (Resource.runs id).LiesAt r.path ∨ (Resource.streams id).LiesAt r.path →
      after = store := by
  intro response after
  have hchange {resource : Resource} {c : Change} (hpath : resource.LiesAt r.path)
      (hasks : AsksFor r resource c) : after = store.change now c :=
    store_answer_of_asksFor worker now store memory hpath hasks
  have hfailure (hstatus : response.status ≠ 200) : after = store :=
    store_answer_of_status worker now store memory hstatus
  have hrun {resource : Resource} (hpath : resource.LiesAt r.path)
      (h : ∀ c, ¬AsksFor r resource c) : after = store :=
    store_answer_of_liesAt worker now store memory hpath h
  refine ⟨?_, fun resource c => hchange, hfailure, store_answer_of_get worker now store memory,
    fun hpath => hrun hpath fun _ => nofun, fun id hpath => ?_⟩
  · by_cases hstatus : response.status = 200
    · by_cases hasked : ∃ resource c, Resource.LiesAt r.path resource ∧ AsksFor r resource c
      · obtain ⟨resource, c, hpath, hasks⟩ := hasked
        exact .inr ⟨hstatus, resource, c, hpath, hasks, hchange hpath hasks⟩
      · refine .inl (store_answer_of_not_asksFor worker now store memory ?_)
        exact fun resource c hpath hasks => hasked ⟨resource, c, hpath, hasks⟩
    · exact .inl (hfailure hstatus)
  · obtain hpath | hpath := hpath
    · exact hrun hpath fun _ => nofun
    · exact hrun hpath fun _ => nofun

end AgentFlow.Api
