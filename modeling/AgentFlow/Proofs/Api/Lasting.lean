import AgentFlow.Proofs.Api.Runs
import AgentFlow.Proofs.Codec.Widened
import AgentFlow.Proofs.Json.Canonical
import AgentFlow.Proofs.Store.Kept

/-!
# Workflows that last

What one request cannot change, no requests can. A workflow that was posted is there, just as it was
answered, after any requests but those that delete it; it is shown on its own and in its place among
the others, with the tasks as they were posted: the value is kept, whatever runs make of it.
-/

namespace AgentFlow

open Http Number Time

/-- The fields of a draft, with any value for the tasks. -/
def WorkflowDraft.postedRecord :=
  Record.mk "WorkflowDraft"
    (.cons (.required "name" .string) <|
      .cons (.optionalWithDefault "description" .string) <|
      .cons (.withDefault "status" Status.codec .draft) <|
      .cons (.withDefault "tasks" .free (.array [])) .nil)
    (fun (name, description, status, tasks, ()) => (name, description, status, tasks))
    fun (name, description, status, tasks) => (name, description, status, tasks, ())

/-- Any value is read where a submission is, and it is the submission as a value. -/
theorem Submission.free_widens : Codec.free.Widens Submission.codec Submission.toValue := by
  intro depth cs submission rest hread
  obtain ⟨⟨v, left⟩, hvalue, hread⟩ := bind_eq_ok_iff.mp hread
  refine bind_eq_ok_iff.mpr ⟨(v, left), hvalue, ?_⟩
  cases v with
  | array items =>
    cases hread
    rw [toValue, ← Json.canonicalItems_eq_map]
    rfl
  | string text =>
    cases hread
    rfl
  | null | bool _ | int _ | float _ | object _ => cases hread

/-- Drafts are read as records with any value for the tasks. -/
theorem WorkflowDraft.postedRecord_widens : postedRecord.codec.Widens WorkflowDraft.codec
    fun draft => (draft.name, draft.description, draft.status, draft.tasks.toValue) := by
  refine Record.widens (.keep _ (.keep _ (.keep _ (.cons rfl Submission.free_widens rfl .nil)))) ?_
  rintro ⟨name, description, status, tasks, ⟨⟩⟩
  rfl

namespace Api

variable {σ : Type}

/-- A request reads the workflow with an id. -/
def ReadsWorkflow (r : Request) (id : Int) : Prop :=
  r.method = .get ∧ ∃ segment, requestedId segment = .ok id ∧
    (Resource.workflow segment).LiesAt r.path

/-- An id is requested by its decimal text. -/
theorem requestedId_idText {id : Int} (hid : IntRange.int64.contains id = true) :
    requestedId (idText id) = .ok id := by
  rw [requestedId, readId_idText hid]
  rfl

/-- A request reads the workflow with the id that stands in its path in decimal. -/
theorem readsWorkflow_idText {id : Int} (hid : IntRange.int64.contains id = true)
    (fields : List HeaderField) (body : ByteArray) :
    ReadsWorkflow ⟨.get, "/api/v1/workflows/" ++ idText id, fields, body⟩ id := by
  refine ⟨rfl, idText id, requestedId_idText hid, isSegment_idText id, ?_⟩
  have htarget : "/api/v1/workflows/" ++ idText id = "/api/v1/workflows/" ++ idText id ++ "" := by
    rw [String.append_empty]
  have hplain : "".toList.any endsPath = false := by decide
  exact path_eq_of_idText hplain htarget

/-- A request deletes the workflow with an id. -/
def DeletesWorkflow (r : Request) (id : Int) : Prop :=
  r.method = .delete ∧ ∃ segment, requestedId segment = .ok id ∧
    (Resource.workflow segment).LiesAt r.path

/-- What is asked for is a change of clients. -/
theorem AsksFor.byClient {r : Request} {resource : Resource} {c : Change}
    (h : AsksFor r resource c) : c.ByClient := by
  cases h <;> trivial

/-- The deletion of a workflow is asked for only by a request that deletes it. -/
theorem AsksFor.deletesWorkflow {r : Request} {resource : Resource} {id : Int}
    (h : AsksFor r resource (.deleteWorkflow id)) (hpath : resource.LiesAt r.path) :
    DeletesWorkflow r id := by
  cases h with
  | @deleteWorkflow segment id hmethod hid => exact ⟨hmethod, segment, hid, hpath⟩

/-- What one change that is asked for leaves true, all requests leave true. -/
theorem answerAll_preserves (worker : Worker σ) {P : Store → Prop}
    {requests : List (Instant × Request)}
    (hchange : ∀ now r, (now, r) ∈ requests → ∀ resource c, Resource.LiesAt r.path resource →
      AsksFor r resource c → ∀ store, P store → P (store.change now c))
    {store : Store} (memory : σ) (h : P store) :
    P (answerAll worker store memory requests).2.1 := by
  induction requests generalizing store memory with
  | nil => exact h
  | cons step rest ih =>
    obtain ⟨now, r⟩ := step
    have hafter : P (answer worker now r store memory).2.1 := by
      rcases (store_answer worker now store memory r).1 with
        hsame | ⟨_, resource, c, hpath, hasks, hc⟩
      · rw [hsame]
        exact h
      · rw [hc]
        exact hchange now r List.mem_cons_self resource c hpath hasks store h
    simp only [answerAll]
    exact ih (fun now r hmem => hchange now r (List.mem_cons_of_mem _ hmem)) _ hafter

/-- Requests keep a workflow that none of them deletes, and all workflows under their own ids. -/
theorem holds_answerAll (worker : Worker σ) {store : Store} {id : Int} {workflow : Workflow}
    {requests : List (Instant × Request)}
    (hkept : ∀ step ∈ requests, ¬DeletesWorkflow step.2 id) (memory : σ)
    (hholds : store.Holds id workflow) (hsound : store.workflowCollection.Sound Workflow.id) :
    (answerAll worker store memory requests).2.1.Holds id workflow ∧
      (answerAll worker store memory requests).2.1.workflowCollection.Sound Workflow.id := by
  refine answerAll_preserves worker
    (P := fun store => store.Holds id workflow ∧ store.workflowCollection.Sound Workflow.id)
    (fun now r hmem resource c hpath hasks store h => ⟨?_, ?_⟩) memory ⟨hholds, hsound⟩
  · refine h.1.change now hasks.byClient ?_
    rintro rfl
    exact hkept _ hmem (hasks.deletesWorkflow hpath)
  · exact Store.sound_workflowCollection_change h.2 now c

section Reads

variable (worker : Worker σ) (now : Instant) (store : Store) (memory : σ) {r : Request}

/-- A request that reads a workflow is answered with what is there under its id. -/
theorem answer_of_readsWorkflow {id : Int} (h : ReadsWorkflow r id) :
    answer worker now r store memory =
      ((store.workflow? id).elim workflowNotFound (.json 200 ·.toJson), store, memory) := by
  obtain ⟨hmethod, segment, hid, hpath⟩ := h
  have hasks : Action.ofRequest r = .ok (.showWorkflow id) := by
    rw [Action.ofRequest, Resource.ofPath?_eq_some_iff.mpr hpath]
    simp only [Resource.action, hmethod, Method.answered]
    exact map_eq_ok_iff.mpr ⟨id, hid, rfl⟩
  have hwhole : r.method ≠ .head := by simp [hmethod]
  simp only [answer, hasks, Action.perform, if_neg hwhole]

/-- A request that reads all workflows is answered with those that are there. -/
theorem answer_of_readsWorkflows (hmethod : r.method = .get)
    (hpath : Resource.workflows.LiesAt r.path) :
    answer worker now r store memory =
      (.json 200 (.array (store.listWorkflows.map Workflow.toJson)), store, memory) := by
  have hasks : Action.ofRequest r = .ok .listWorkflows := by
    rw [Action.ofRequest, Resource.ofPath?_eq_some_iff.mpr hpath]
    simp only [Resource.action, hmethod, Method.answered]
  have hwhole : r.method ≠ .head := by simp [hmethod]
  simp only [answer, hasks, Action.perform, if_neg hwhole]

/-- A rejection is no success. -/
theorem Rejection.status_ne (rejection : Rejection) : rejection.response.status ≠ 200 := by
  cases rejection with
  | badBody body fault =>
    simp only [Rejection.response]
    split <;> exact nofun
  | unknownPath | unknownMethod _ | badId _ | notJson | tooLong | notText => exact nofun

/-- A body is taken if it is announced as JSON, is not too long and is a text that is read by its
codec. -/
theorem requestedBody_eq_ok_iff {α : Type} {c : Codec α} {x : α} :
    requestedBody c r = .ok x ↔ (r.field? "content-type").any announcesJson = true ∧
      r.body.size ≤ maxBodySize ∧ ∃ text : String, r.body = text.toUTF8 ∧ c.parse text = .ok x := by
  simp only [← Text.fromUTF8?_eq_some_iff]
  rw [requestedBody]
  split
  next hannounced => simp_all
  next hannounced =>
    split
    next hsize => simp [Nat.not_le.mpr hsize]
    next hsize =>
      cases htext : String.fromUTF8? r.body with
      | none => simp
      | some text => cases hparse : c.parse text <;> simp_all [Except.mapError]

/-- A body that is read by a codec is read by one that widens it. -/
theorem requestedBody_widens {α β : Type} {wide : Codec β} {c : Codec α} {widen : α → β}
    (h : wide.Widens c widen) {x : α} (hread : requestedBody c r = .ok x) :
    requestedBody wide r = .ok (widen x) := by
  obtain ⟨hannounced, hsize, text, hbody, hparse⟩ := requestedBody_eq_ok_iff.mp hread
  exact requestedBody_eq_ok_iff.mpr ⟨hannounced, hsize, text, hbody, h.parse hparse⟩

/-- A request that posts a workflow and succeeds is answered with the one that is made of its body.
-/
theorem answer_of_postsWorkflow (hmethod : r.method = .post)
    (hpath : Resource.workflows.LiesAt r.path)
    (haccepted : (answer worker now r store memory).1.status = 200) :
    ∃ draft, requestedBody WorkflowDraft.codec r = .ok draft ∧
      answer worker now r store memory =
        (.json 200 (store.createWorkflow draft now).1.toJson, (store.createWorkflow draft now).2,
          memory) := by
  have hwhole : r.method ≠ .head := by simp [hmethod]
  have hasks : Action.ofRequest r = .createWorkflow <$> requestedBody WorkflowDraft.codec r := by
    rw [Action.ofRequest, Resource.ofPath?_eq_some_iff.mpr hpath]
    simp only [Resource.action, hmethod, Method.answered]
  cases hbody : requestedBody WorkflowDraft.codec r with
  | ok draft =>
    rw [hbody] at hasks
    refine ⟨draft, rfl, ?_⟩
    simp only [answer, hasks, if_neg hwhole]
    rfl
  | error rejection =>
    have hrejected : Action.ofRequest r = .error rejection := hasks.trans (by rw [hbody]; rfl)
    simp only [answer, hrejected, if_neg hwhole] at haccepted
    exact absurd haccepted rejection.status_ne

end Reads

/-- A workflow that is there under its own id is in its place among the others. -/
theorem exists_listWorkflows_eq {store : Store} {workflow : Workflow}
    (hsound : store.workflowCollection.Sound Workflow.id)
    (hget : store.workflow? workflow.id = some workflow) :
    ∃ front back, store.listWorkflows = front ++ workflow :: back ∧
      (∀ other ∈ front, other.id < workflow.id) ∧ ∀ other ∈ back, workflow.id < other.id := by
  have hmem : (workflow.id, workflow) ∈ store.workflows.entries :=
    (SortedMap.mem_entries_iff Int.lt_irrefl).mpr hget
  have hvalue : workflow ∈ store.listWorkflows := List.mem_map.mpr ⟨_, hmem, rfl⟩
  have hsorted := store.workflows.sorted
  have hentries : store.workflows.entries = store.listWorkflows.map fun w => (w.id, w) :=
    hsound.entries_eq
  rw [hentries, KeysIncrease, List.pairwise_map] at hsorted
  obtain ⟨front, back, hsplit⟩ := List.append_of_mem hvalue
  rw [hsplit, List.pairwise_append] at hsorted
  obtain ⟨_, hback, hfront⟩ := hsorted
  exact ⟨front, back, hsplit, fun other hother => hfront other hother workflow List.mem_cons_self,
    (List.pairwise_cons.mp hback).1⟩

/-- **Lasting workflows.** A request that posts a workflow and succeeds is answered with a record
whose tasks are the value that its body has for them, or no tasks. Whatever requests follow, if none
of them deletes the workflow with this id, reading it gives the same answer again, and reading all
workflows gives the record once, behind those with lesser ids and before those with greater ones. -/
theorem answer_createWorkflow_lasts (history : List (Instant × Change)) (worker : Worker σ)
    (now : Instant) (memory : σ) {r : Request} (hmethod : r.method = .post)
    (hpath : Resource.workflows.LiesAt r.path)
    (haccepted : (answer worker now r (Store.ofHistory history) memory).1.status = 200) :
    let posted := answer worker now r (Store.ofHistory history) memory
    ∃ (workflow : Workflow) (tasks : Json),
      posted.1 = .json 200 workflow.toJson ∧
      workflow.id = (Store.ofHistory history).lastWorkflowId + 1 ∧
      (IntRange.int64.contains workflow.id = true → ∀ fields body,
        ReadsWorkflow ⟨.get, "/api/v1/workflows/" ++ idText workflow.id, fields, body⟩
          workflow.id) ∧
      requestedBody WorkflowDraft.postedRecord.codec r =
        .ok (workflow.name, workflow.description, workflow.status, tasks) ∧
      workflow.toJson.member? "tasks" = some tasks ∧
      ∀ later : List (Instant × Request),
        (∀ step ∈ later, ¬DeletesWorkflow step.2 workflow.id) →
        let store := (answerAll worker posted.2.1 posted.2.2 later).2.1
        (∀ now r memory, ReadsWorkflow r workflow.id →
          answer worker now r store memory = (posted.1, store, memory)) ∧
        ∃ front back, store.listWorkflows = front ++ workflow :: back ∧
          (∀ other ∈ front, other.id < workflow.id) ∧ (∀ other ∈ back, workflow.id < other.id) ∧
          ∀ now r memory, r.method = .get → Resource.workflows.LiesAt r.path →
            answer worker now r store memory = (.json 200 (.array (front.map Workflow.toJson ++
              workflow.toJson :: back.map Workflow.toJson)), store, memory) := by
  intro posted
  obtain ⟨draft, hbody, hanswer⟩ :=
    answer_of_postsWorkflow worker now (Store.ofHistory history) memory hmethod hpath haccepted
  let created := (Store.ofHistory history).createWorkflow draft now
  have hposted : posted = (.json 200 created.1.toJson, created.2, memory) := hanswer
  have hcreated : created.2.workflowCollection.Sound Workflow.id :=
    Store.sound_workflowCollection_change (Store.sound_ofHistory history).2 now
      (.createWorkflow draft)
  rw [hposted]
  refine ⟨created.1, draft.tasks.toValue, rfl, rfl, readsWorkflow_idText,
    requestedBody_widens WorkflowDraft.postedRecord_widens hbody, rfl, fun later hkept => ?_⟩
  obtain ⟨hholds, hsound⟩ := holds_answerAll worker hkept memory
    (Store.holds_createWorkflow _ draft now) hcreated
  obtain ⟨front, back, hlist, hfront, hback⟩ := exists_listWorkflows_eq hsound hholds.get?
  refine ⟨fun now r memory hreads => ?_, front, back, hlist, hfront, hback,
    fun now r memory hget hlies => ?_⟩
  · rw [answer_of_readsWorkflow worker now _ _ hreads, hholds.get?]
    rfl
  · rw [answer_of_readsWorkflows worker now _ _ hget hlies, hlist, List.map_append, List.map_cons]

/-- A request that posts a workflow with a task that is none. -/
def surveyRequest : Request :=
  ⟨.post, "/api/v1/workflows/", [("content-type", "application/json")],
    "\x7b\"name\": \"Survey\", \"tasks\": [\x7b\"step\": 2, \"agent\": null\x7d, 1]\x7d".toUTF8⟩

/-- A workflow that cannot be run is shown as it was posted, after a run of it that was refused and
the deletion of another one. -/
theorem answer_createWorkflow_lasts_survey :
    let posted := answer Worker.counting rehearsalTime surveyRequest (Store.ofHistory []) ()
    let store := (answerAll Worker.counting posted.2.1 posted.2.2
      [(rehearsalTime, ⟨.post, "/api/v1/workflows/1/run", [], .empty⟩),
        (rehearsalTime, ⟨.delete, "/api/v1/workflows/2", [], .empty⟩)]).2.1
    posted.1.status = 200 ∧
    (answer Worker.counting rehearsalTime ⟨.get, "/api/v1/workflows/1", [], .empty⟩ store ()).1 =
      posted.1 ∧
    ∃ shown tasks, posted.1 = .json 200 shown ∧ shown.member? "tasks" = some tasks ∧
      tasks.compactText = "[\x7b\"agent\":null,\"step\":2\x7d,1]" := by
  have haccepted :
      (answer Worker.counting rehearsalTime surveyRequest (Store.ofHistory []) ()).1.status =
        200 := by decide +kernel
  have htext : (requestedBody WorkflowDraft.postedRecord.codec surveyRequest).toOption.map
      (fun (_, _, _, tasks) => tasks.compactText) =
        some "[\x7b\"agent\":null,\"step\":2\x7d,1]" := by decide +kernel
  obtain ⟨workflow, tasks, hposted, hid, hpath, hread, htasks, hlasts⟩ :=
    answer_createWorkflow_lasts [] Worker.counting rehearsalTime () rfl (.inr (by rfl)) haccepted
  have hid : workflow.id = 1 := hid
  have hkept : ∀ step ∈
      [(rehearsalTime, (⟨.post, "/api/v1/workflows/1/run", [], .empty⟩ : Request)),
      (rehearsalTime, ⟨.delete, "/api/v1/workflows/2", [], .empty⟩)],
      ¬DeletesWorkflow step.2 workflow.id := by
    rintro step hstep ⟨hmethod, segment, hsegment, hlies⟩
    obtain rfl | rfl : step = _ ∨ step = _ := by simpa using hstep
    · cases hmethod
    · have hother : (Resource.workflow "2").LiesAt "/api/v1/workflows/2" :=
        ⟨⟨by decide, by decide⟩, rfl⟩
      cases hlies.unique hother
      have htwo : requestedId (idText 2) = .ok 2 := requestedId_idText (by decide)
      have hone : requestedId (idText 2) = .ok workflow.id := hsegment
      rw [htwo, hid] at hone
      cases hone
  obtain ⟨hshown, -⟩ := hlasts _ hkept
  have hreads : ReadsWorkflow ⟨.get, "/api/v1/workflows/1", [], .empty⟩ workflow.id := by
    have hdecimal := hpath (by rw [hid]; decide) [] .empty
    rw [hid] at hdecimal ⊢
    exact hdecimal
  refine ⟨haccepted, by rw [hshown rehearsalTime _ () hreads], workflow.toJson, tasks, hposted,
    htasks, ?_⟩
  rw [hread] at htext
  exact Option.some.inj htext

end Api

end AgentFlow
