import AgentFlow.Proofs.Api.Changes
import AgentFlow.Proofs.Chain.Tell
import AgentFlow.Proofs.Compile
import AgentFlow.Proofs.Http.PathId
import AgentFlow.Proofs.Json.Integers
import AgentFlow.Proofs.RunEvent
import AgentFlow.Proofs.Task.Order
import AgentFlow.Worker.Rehearsal

/-!
# Runs and streams

A workflow can be run in two ways: one answers when the run has ended, the other tells of it while
it goes on. Both refuse the same workflows for the same reasons and before the worker is called. If
they do not, the answer of the one tells what the last event of the other does: the outcome, or the
step that failed and why.
-/

namespace AgentFlow.Api

open Http Time Number

variable {σ : Type}

/-- The data of the last event of a stream. -/
def lastData? (r : Response) : Option Json :=
  match r.body with
  | .events data => data.getLast?
  | _ => none

/-- The workflow with an id is there, but does not compile with the agents there are. -/
def Refuses (store : Store) (id : Int) (e : WorkflowError) : Prop :=
  ∃ workflow, store.workflow? id = some workflow ∧ workflow.compile store.roster = .error e

/-- The workflow with an id is there and compiles with the agents there are. -/
def Starts (store : Store) (id : Int) : Prop :=
  ∃ workflow chain, store.workflow? id = some workflow ∧ workflow.compile store.roster = .ok chain

/-- The response to a run of a workflow that does not compile. -/
def refusal (e : WorkflowError) : Response := .failure 400 s!"Failed to build graph: {e.message}"

/-- The response to a run of which a step failed. -/
def stepFailure (node reason : String) : Response :=
  .failure 500 s!"Workflow execution failed: Step '{node}' failed: {reason}"

/-- What a run and a stream of the workflow with an id are answered, case by case. -/
inductive AnsweredAlike (store : Store) (id : Int) : Response → Response → Prop
  | missing : store.workflow? id = none → AnsweredAlike store id workflowNotFound workflowNotFound
  | refused {e : WorkflowError} : Refuses store id e →
      AnsweredAlike store id (refusal e) (refusal e)
  | finished {events : List RunEvent} {state : ExecutionState} : Starts store id →
      events.getLast? = some (.finished state) →
      AnsweredAlike store id (outcomeResponse (.ofState state))
        (.events (events.map RunEvent.toJson))
  | failed {events : List RunEvent} {node reason : String} : Starts store id →
      events.getLast? = some (.failed (some node) reason) →
      AnsweredAlike store id (stepFailure node reason) (.events (events.map RunEvent.toJson))

/-- A run and a stream that begin with the same memory of the worker are answered alike, and leave
the same memory. -/
theorem answeredAlike_responses (worker : Worker σ) (store : Store) (id : Int) (memory : σ) :
    AnsweredAlike store id (runResponse worker (store.workflow? id) store.roster memory).1
        (streamResponse worker (store.workflow? id) store.roster memory).1 ∧
      (runResponse worker (store.workflow? id) store.roster memory).2 =
        (streamResponse worker (store.workflow? id) store.roster memory).2 := by
  cases hfound : store.workflow? id with
  | none => exact ⟨.missing hfound, rfl⟩
  | some workflow =>
    cases hcompile : workflow.compile store.roster with
    | error e =>
      have hclient : e.isClientError = true := Workflow.isClientError_of_compile hcompile
      have hresponse : e.response = refusal e := by
        rw [WorkflowError.response, WorkflowError.status, WorkflowError.report, if_pos hclient,
          if_pos hclient, refusal]
      simp only [runResponse, streamResponse, Workflow.run, hcompile, hresponse]
      exact ⟨.refused ⟨workflow, hfound, hcompile⟩, trivial⟩
    | ok chain =>
      have hstarts : Starts store id := ⟨workflow, chain, hfound, hcompile⟩
      obtain ⟨events, hwatch, hlast⟩ := chain.watch_eq_run worker .initial memory
      cases hrun : chain.run worker .initial memory with
      | mk result after =>
        rw [hrun] at hwatch hlast
        simp only [runResponse, streamResponse, Workflow.run, hcompile, hwatch, hrun]
        cases result with
        | ok state => exact ⟨.finished hstarts hlast, rfl⟩
        | error e =>
          obtain ⟨node, reason, rfl⟩ := Chain.run_error_cases hrun
          exact ⟨.failed hstarts hlast, rfl⟩

/-! ### What the two answers tell -/

section Cases

variable {store : Store} {id : Int} {workflow : Workflow} {e e' : WorkflowError}

/-- A workflow that is refused does not compile. -/
theorem Refuses.compile_eq (h : Refuses store id e) (hfound : store.workflow? id = some workflow) :
    workflow.compile store.roster = .error e := by
  obtain ⟨_, hfound', hcompile⟩ := h
  obtain rfl := Option.some.inj (hfound.symm.trans hfound')
  exact hcompile

/-- A workflow is refused for one reason. -/
theorem Refuses.unique (h : Refuses store id e) (h' : Refuses store id e') : e = e' := by
  obtain ⟨workflow, hfound, hcompile⟩ := h
  exact Except.error.inj (hcompile.symm.trans (h'.compile_eq hfound))

/-- A workflow that is refused is there. -/
theorem Refuses.workflow?_ne_none (h : Refuses store id e) : store.workflow? id ≠ none := by
  obtain ⟨workflow, hfound, _⟩ := h
  rw [hfound]
  exact Option.some_ne_none workflow

/-- A workflow that starts is there. -/
theorem Starts.workflow?_ne_none (h : Starts store id) : store.workflow? id ≠ none := by
  obtain ⟨workflow, _, hfound, _⟩ := h
  rw [hfound]
  exact Option.some_ne_none workflow

/-- A workflow that starts is not refused. -/
theorem Starts.not_refuses (h : Starts store id) : ¬Refuses store id e := by
  intro hrefuses
  obtain ⟨workflow, chain, hfound, hcompile⟩ := h
  rw [hrefuses.compile_eq hfound] at hcompile
  cases hcompile

end Cases

/-- Outcomes are told from the responses with them. -/
theorem outcomeResponse_injective : Function.Injective outcomeResponse := by
  rintro ⟨results, messages⟩ ⟨results', messages'⟩ h
  have hmembers := Json.object.inj (Body.json.inj (Response.mk.inj h).2.2)
  obtain ⟨hresults, hrest⟩ := List.cons.inj (List.cons.inj hmembers).2
  have hmessages := (List.cons.inj hrest).1
  exact congrArg₂ RunOutcome.mk (Results.write_injective (Prod.mk.inj hresults).2)
    (Message.write_list_injective (Prod.mk.inj hmessages).2)

/-- A stream of events tells the last of them at last, and no other event. -/
theorem lastData?_events_eq_iff {events : List RunEvent} {last event : RunEvent}
    (h : events.getLast? = some last) :
    lastData? (.events (events.map RunEvent.toJson)) = some event.toJson ↔ last = event := by
  simp only [lastData?, Response.events, List.getLast?_map, h, Option.map_some, Option.some.injEq]
  exact RunEvent.toJson_injective.eq_iff

/-- A run and a stream of the workflow with an id are refused in the same cases, with the same
answers. -/
structure RefusedAlike (store : Store) (id : Int) (run stream : Response) : Prop where
  run_missing_iff : run.status = 404 ↔ store.workflow? id = none
  stream_missing_iff : stream.status = 404 ↔ store.workflow? id = none
  of_missing : store.workflow? id = none → run = workflowNotFound ∧ stream = workflowNotFound
  run_refused_iff : run.status = 400 ↔ ∃ e, Refuses store id e
  stream_refused_iff : stream.status = 400 ↔ ∃ e, Refuses store id e
  of_refused : ∀ e, Refuses store id e → run = refusal e ∧ stream = refusal e

/-- A run and a stream of the workflow with an id start in the same cases, and end alike: the answer
to the run tells what the last event of the stream tells. -/
structure EndedAlike (store : Store) (id : Int) (run stream : Response) : Prop where
  run_starts_iff : run.status = 200 ∨ run.status = 500 ↔ Starts store id
  stream_starts_iff : stream.status = 200 ↔ Starts store id
  /-- A run that succeeds is answered with an outcome. -/
  run_finished_iff : run.status = 200 ↔ ∃ outcome, run = outcomeResponse outcome
  /-- The outcome is that of the state which the stream tells at last. -/
  finished_iff : ∀ results messages, run = outcomeResponse ⟨results, messages⟩ ↔
    ∃ state, lastData? stream = some (RunEvent.finished state).toJson ∧
      state.results = results ∧ state.messages = messages
  /-- A run fails if the stream tells at last of a step that failed. -/
  run_failed_iff : run.status = 500 ↔
    ∃ node reason, lastData? stream = some (RunEvent.failed (some node) reason).toJson
  /-- A run that fails is answered with the step and the reason that the stream tells. -/
  of_failed : ∀ node reason,
    lastData? stream = some (RunEvent.failed (some node) reason).toJson →
      run = stepFailure node reason

section Agreement

variable {store : Store} {id : Int} {run stream : Response}

/-- Nothing is refused if the workflow starts. -/
theorem RefusedAlike.of_starts (hstarts : Starts store id)
    (hrun : run.status = 200 ∨ run.status = 500) (hstream : stream.status = 200) :
    RefusedAlike store id run stream := by
  have hnone := hstarts.workflow?_ne_none
  have hrefuses : ¬∃ e, Refuses store id e := fun ⟨_, h⟩ => hstarts.not_refuses h
  exact {
    run_missing_iff := iff_of_false (by omega) hnone
    stream_missing_iff := iff_of_false (by omega) hnone
    of_missing := fun h => absurd h hnone
    run_refused_iff := iff_of_false (by omega) hrefuses
    stream_refused_iff := iff_of_false (by omega) hrefuses
    of_refused := fun e h => absurd ⟨e, h⟩ hrefuses }

/-- Nothing ends if the workflow does not start. -/
theorem EndedAlike.of_not_starts (hstarts : ¬Starts store id)
    (hrun : ¬(run.status = 200 ∨ run.status = 500)) (hstream : stream.status ≠ 200)
    (hlast : lastData? stream = none) : EndedAlike store id run stream := by
  have hsucceeds : run.status ≠ 200 := fun h => hrun (.inl h)
  have htells (event : RunEvent) : lastData? stream ≠ some event.toJson := by
    rw [hlast]
    nofun
  have houtcome (outcome : RunOutcome) : run ≠ outcomeResponse outcome := by
    rintro rfl
    exact hsucceeds rfl
  exact {
    run_starts_iff := iff_of_false hrun hstarts
    stream_starts_iff := iff_of_false hstream hstarts
    run_finished_iff := iff_of_false hsucceeds fun ⟨_, h⟩ => houtcome _ h
    finished_iff := fun _ _ => iff_of_false (houtcome _) fun ⟨_, h, _⟩ => htells _ h
    run_failed_iff := iff_of_false (fun h => hrun (.inr h)) fun ⟨_, _, h⟩ => htells _ h
    of_failed := fun _ _ h => absurd h (htells _) }

/-- What is answered alike is refused alike. -/
theorem AnsweredAlike.refusedAlike (h : AnsweredAlike store id run stream) :
    RefusedAlike store id run stream := by
  cases h with
  | missing hnone =>
    have hrefuses : ¬∃ e, Refuses store id e := fun ⟨_, h⟩ => h.workflow?_ne_none hnone
    exact {
      run_missing_iff := iff_of_true rfl hnone
      stream_missing_iff := iff_of_true rfl hnone
      of_missing := fun _ => ⟨rfl, rfl⟩
      run_refused_iff := iff_of_false nofun hrefuses
      stream_refused_iff := iff_of_false nofun hrefuses
      of_refused := fun e h => absurd ⟨e, h⟩ hrefuses }
  | @refused e hrefuses =>
    have hnone := hrefuses.workflow?_ne_none
    exact {
      run_missing_iff := iff_of_false nofun hnone
      stream_missing_iff := iff_of_false nofun hnone
      of_missing := fun h => absurd h hnone
      run_refused_iff := iff_of_true rfl ⟨e, hrefuses⟩
      stream_refused_iff := iff_of_true rfl ⟨e, hrefuses⟩
      of_refused := fun _ h => hrefuses.unique h ▸ ⟨rfl, rfl⟩ }
  | finished hstarts _ => exact .of_starts hstarts (.inl rfl) rfl
  | failed hstarts _ => exact .of_starts hstarts (.inr rfl) rfl

/-- What is answered alike ends alike. -/
theorem AnsweredAlike.endedAlike (h : AnsweredAlike store id run stream) :
    EndedAlike store id run stream := by
  cases h with
  | missing hnone => exact .of_not_starts (fun h => h.workflow?_ne_none hnone) nofun nofun rfl
  | refused hrefuses => exact .of_not_starts (fun h => h.not_refuses hrefuses) nofun nofun rfl
  | @finished events state hstarts hlast =>
    have houtcome {results : Results} {messages : List Message} :
        outcomeResponse (.ofState state) = outcomeResponse ⟨results, messages⟩ ↔
          state.results = results ∧ state.messages = messages := by
      rw [outcomeResponse_injective.eq_iff, RunOutcome.ofState, RunOutcome.mk.injEq]
    have htells {node reason : String} : lastData? (.events (events.map RunEvent.toJson)) ≠
        some (RunEvent.failed (some node) reason).toJson := fun h => by
      cases (lastData?_events_eq_iff hlast).mp h
    exact {
      run_starts_iff := iff_of_true (.inl rfl) hstarts
      stream_starts_iff := iff_of_true rfl hstarts
      run_finished_iff := iff_of_true rfl ⟨_, rfl⟩
      finished_iff := fun results messages => by
        simp only [lastData?_events_eq_iff hlast, houtcome, RunEvent.finished.injEq,
          exists_eq_left']
      run_failed_iff := iff_of_false nofun fun ⟨_, _, h⟩ => htells h
      of_failed := fun _ _ h => absurd h htells }
  | @failed events node reason hstarts hlast =>
    have htells {state : ExecutionState} : lastData? (.events (events.map RunEvent.toJson)) ≠
        some (RunEvent.finished state).toJson := fun h => by
      cases (lastData?_events_eq_iff hlast).mp h
    exact {
      run_starts_iff := iff_of_true (.inr rfl) hstarts
      stream_starts_iff := iff_of_true rfl hstarts
      run_finished_iff := iff_of_false nofun nofun
      finished_iff := fun _ _ => iff_of_false nofun fun ⟨_, h, _⟩ => htells h
      run_failed_iff := iff_of_true rfl ⟨node, reason, (lastData?_events_eq_iff hlast).mpr rfl⟩
      of_failed := fun _ _ h => by
        cases (lastData?_events_eq_iff hlast).mp h
        rfl }

end Agreement

/-! ### Requests -/

/-- A request posts to a resource of the workflow with an id. -/
def PostsTo (r : Request) (resource : String → Resource) (id : Int) : Prop :=
  r.method = .post ∧ ∃ segment, requestedId segment = .ok id ∧ (resource segment).LiesAt r.path

/-- A request that posts to a resource asks for what the resource takes for that. -/
theorem PostsTo.ofRequest {r : Request} {resource : String → Resource} {make : Int → Action}
    {id : Int} (h : PostsTo r resource id)
    (hmake : ∀ segment, r.method = .post →
      (resource segment).action r = make <$> requestedId segment) :
    Action.ofRequest r = .ok (make id) := by
  obtain ⟨hmethod, segment, hid, hpath⟩ := h
  rw [Action.ofRequest, Resource.ofPath?_eq_some_iff.mpr hpath]
  exact (hmake segment hmethod).trans (map_eq_ok_iff.mpr ⟨id, hid, rfl⟩)

/-- The decimal text of an id is a segment of a path. -/
theorem isSegment_idText (id : Int) : IsSegment (idText id) := by
  obtain ⟨c, cs, htext, _⟩ := Json.exists_intText_eq_cons id
  refine ⟨?_, ?_⟩
  · rw [idText, htext]
    simp [← String.toList_inj]
  · intro hslash
    exact absurd (isDigit_or_sign_idText id '/' hslash) (by decide)

/-- The path of a target with a decimal id is the target. -/
theorem path_eq_of_idText {r : Request} {id : Int} {suffix : String}
    (hsuffix : suffix.toList.any endsPath = false)
    (htarget : r.target = "/api/v1/workflows/" ++ idText id ++ suffix) : r.path = r.target := by
  have hfront : "/api/v1/workflows/".toList.any endsPath = false := by decide
  have hid : (idText id).toList.any endsPath = false := by
    rw [List.any_eq_false]
    intro c hc
    rcases isDigit_or_sign_idText id c hc with hdigit | rfl | rfl
    · have hquery : c ≠ '?' := Json.ne_of_isDigit hdigit (by decide)
      have hfragment : c ≠ '#' := Json.ne_of_isDigit hdigit (by decide)
      simp [endsPath, hquery, hfragment]
    · decide
    · decide
  apply Request.path_eq_target
  · rw [htarget]
    simp
  · rw [htarget, String.toList_append, String.toList_append, List.any_append, List.any_append,
      hfront, hid, hsuffix]
    rfl

/-- A request whose path holds an id in decimal posts to what lies at that path. -/
theorem postsTo_of_idText {r : Request} {resource : String → Resource} {id : Int} {suffix : String}
    (hid : IntRange.int64.contains id = true) (hmethod : r.method = .post)
    (hsuffix : suffix.toList.any endsPath = false)
    (htarget : r.target = "/api/v1/workflows/" ++ idText id ++ suffix)
    (hlies : ∀ segment, IsSegment segment →
      (resource segment).LiesAt ("/api/v1/workflows/" ++ segment ++ suffix)) :
    PostsTo r resource id := by
  have hread : requestedId (idText id) = .ok id := by
    rw [requestedId, readId_idText hid]
    rfl
  have hpath : r.path = r.target := path_eq_of_idText hsuffix htarget
  refine ⟨hmethod, idText id, hread, ?_⟩
  rw [hpath, htarget]
  exact hlies _ (isSegment_idText id)

section Answers

variable (worker : Worker σ) (now : Instant) (store : Store) (memory : σ) {r : Request} {id : Int}

/-- A request that posts to the runs of a workflow is answered with a run of it. -/
theorem answer_of_postsTo_runs (h : PostsTo r .runs id) :
    answer worker now r store memory =
      ((runResponse worker (store.workflow? id) store.roster memory).1, store,
        (runResponse worker (store.workflow? id) store.roster memory).2) := by
  have hasks : Action.ofRequest r = .ok (.runWorkflow id) := h.ofRequest fun segment hmethod => by
    simp only [Resource.action, hmethod, Method.answered]
  have hwhole : r.method ≠ .head := by simp [h.1]
  simp only [answer, hasks, Action.perform, if_neg hwhole]

/-- A request that posts to the streams of a workflow is answered with what is told of a run. -/
theorem answer_of_postsTo_streams (h : PostsTo r .streams id) :
    answer worker now r store memory =
      ((streamResponse worker (store.workflow? id) store.roster memory).1, store,
        (streamResponse worker (store.workflow? id) store.roster memory).2) := by
  have hasks : Action.ofRequest r = .ok (.streamWorkflow id) :=
    h.ofRequest fun segment hmethod => by simp only [Resource.action, hmethod, Method.answered]
  have hwhole : r.method ≠ .head := by simp [h.1]
  simp only [answer, hasks, Action.perform, if_neg hwhole]

/-- A run that does not start leaves the memory of the worker as it is. -/
theorem memory_of_not_starts (h : ¬Starts store id) :
    (runResponse worker (store.workflow? id) store.roster memory).2 = memory := by
  cases hfound : store.workflow? id with
  | none => rfl
  | some workflow =>
    cases hcompile : workflow.compile store.roster with
    | error e => simp only [runResponse, Workflow.run, hcompile]
    | ok chain => exact absurd ⟨workflow, chain, hfound, hcompile⟩ h

/-- **Runs and streams.** For every id, the requests that post to the runs and to the streams of the
workflow with that id are those with a segment that is read as it, such as its decimal text. Two
such requests that find the same store and the same memory of the worker are refused alike or end
alike, and leave the same behind; the worker is not called if there is no such workflow or it does
not compile. -/
theorem answer_run_agrees_stream (id : Int) (hid : IntRange.int64.contains id = true)
    (later : Instant) :
    (∀ fields body,
      PostsTo ⟨.post, "/api/v1/workflows/" ++ idText id ++ "/run", fields, body⟩ .runs id ∧
      PostsTo ⟨.post, "/api/v1/workflows/" ++ idText id ++ "/run/stream", fields, body⟩
        .streams id) ∧
    ∀ run stream, PostsTo run .runs id → PostsTo stream .streams id →
      let ran := answer worker now run store memory
      let told := answer worker later stream store memory
      RefusedAlike store id ran.1 told.1 ∧ EndedAlike store id ran.1 told.1 ∧ ran.2 = told.2 ∧
      (store.workflow? id = none ∨ (∃ e, Refuses store id e) → ∀ log,
        (answer worker.logged now run store (memory, log)).2.2 = (memory, log) ∧
        (answer worker.logged later stream store (memory, log)).2.2 = (memory, log)) := by
  refine ⟨fun fields body =>
    ⟨postsTo_of_idText hid rfl (by decide) rfl fun _ hsegment => ⟨hsegment, rfl⟩,
      postsTo_of_idText hid rfl (by decide) rfl fun _ hsegment => ⟨hsegment, rfl⟩⟩, ?_⟩
  intro run stream hrun hstream ran told
  obtain ⟨halike, hmemory⟩ := answeredAlike_responses worker store id memory
  have hran : ran = _ := answer_of_postsTo_runs worker now store memory hrun
  have htold : told = _ := answer_of_postsTo_streams worker later store memory hstream
  rw [hran, htold]
  refine ⟨halike.refusedAlike, halike.endedAlike, congrArg (store, ·) hmemory, fun hnot log => ?_⟩
  have hstarts : ¬Starts store id := by
    intro hstarts
    rcases hnot with hnone | ⟨e, hrefuses⟩
    · exact hstarts.workflow?_ne_none hnone
    · exact hstarts.not_refuses hrefuses
  obtain ⟨_, hlogged⟩ := answeredAlike_responses worker.logged store id (memory, log)
  have hkept := memory_of_not_starts worker.logged store (memory, log) hstarts
  rw [answer_of_postsTo_runs worker.logged now store (memory, log) hrun,
    answer_of_postsTo_streams worker.logged later store (memory, log) hstream]
  exact ⟨hkept, hlogged.symm.trans hkept⟩

end Answers

/-- When a rehearsal begins. -/
def rehearsalTime : Instant := ⟨⟨2024, 1, 1⟩, 0, 0, 0⟩

/-- The agent of a rehearsal. -/
def rehearsalAgent : Agent := .ofDraft 1 ⟨"Ann", none, defaultModel, ""⟩ rehearsalTime

/-- A workflow of two steps, of which the first one is submitted last. -/
def rehearsal : Workflow :=
  .ofDraft 1 ⟨"Rehearsal", none, .draft, .list
    [.object [("agent_id", .int 1), ("instruction", .string "Run"), ("step", .int 1)],
      .object [("agent_id", .int 1), ("instruction", .string "Wait")]]⟩ rehearsalTime

/-- A store with this workflow and its agent. -/
def rehearsalStore : Store := (Store.empty.insertAgent rehearsalAgent).insertWorkflow rehearsal

/-- A run whose second step fails is answered with what the stream tells of this step at last. -/
theorem answer_run_agrees_stream_rehearsal :
    let run : Request := ⟨.post, "/api/v1/workflows/1/run", [], .empty⟩
    let stream : Request := ⟨.post, "/api/v1/workflows/1/run/stream", [], .empty⟩
    let ran := (answer (Worker.flaky "Run") rehearsalTime run rehearsalStore ()).1
    let told := (answer (Worker.flaky "Run") rehearsalTime stream rehearsalStore ()).1
    IntRange.int64.contains 1 = true ∧ EndedAlike rehearsalStore 1 ran told ∧
      lastData? told = some (RunEvent.failed (some "step_2_Ann") "Ann exploded").toJson ∧
      ran = stepFailure "step_2_Ann" "Ann exploded" := by
  intro run stream ran told
  have hid : IntRange.int64.contains 1 = true := by decide
  obtain ⟨hposts, hagree⟩ := answer_run_agrees_stream (Worker.flaky "Run") rehearsalTime
    rehearsalStore () 1 hid rehearsalTime
  obtain ⟨hrun, hstream⟩ : PostsTo run .runs 1 ∧ PostsTo stream .streams 1 := hposts [] .empty
  have hended : EndedAlike rehearsalStore 1 ran told := (hagree run stream hrun hstream).2.1
  have htasks : rehearsal.tasks.normalize = .ok [⟨0, some 1, "Wait"⟩, ⟨1, some 1, "Run"⟩] := by
    have hentries : rehearsal.tasks.normalize =
        .ok (Task.inOrder [⟨1, some 1, "Run"⟩, ⟨0, some 1, "Wait"⟩]) := by rfl
    exact hentries.trans (congrArg Except.ok (Task.inOrder_pair _ _))
  have hcompile : rehearsal.compile rehearsalStore.roster = .ok ⟨"Rehearsal",
      [⟨"step_1_Ann", rehearsalAgent, "Wait"⟩, ⟨"step_2_Ann", rehearsalAgent, "Run"⟩],
      List.cons_ne_nil _ _, by decide⟩ := by
    rw [Workflow.compile_of_normalize htasks]
    rfl
  have hlast : lastData? told =
      some (RunEvent.failed (some "step_2_Ann") "Ann exploded").toJson := by
    have htold : told = (streamResponse (Worker.flaky "Run") (rehearsalStore.workflow? 1)
        rehearsalStore.roster ()).1 :=
      congrArg Prod.fst (answer_of_postsTo_streams _ rehearsalTime rehearsalStore () hstream)
    have hfound : rehearsalStore.workflow? 1 = some rehearsal := by rfl
    rw [htold]
    simp only [streamResponse, hfound, hcompile]
    rfl
  exact ⟨hid, hended, hlast, hended.of_failed _ _ hlast⟩

end AgentFlow.Api
