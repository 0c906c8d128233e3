import AgentFlow.Proofs.Api.Runs
import AgentFlow.Proofs.Store.Kept

/-!
# Runs between the changes of other clients

A run reads the workflow first and the agents after that, and other clients may change the store in
between. It is answered like a run at one moment, for which nothing had changed in between, unless
its workflow was deleted after the first reading and the agents have changed since the deletion.
-/

namespace AgentFlow.Api

open Http Time

variable {σ : Type}

/-- A run that finds its workflow in one store and the agents in another. -/
def runAcross (worker : Worker σ) (id : Int) (first second : Store) (memory : σ) : Response × σ :=
  runResponse worker (first.workflow? id) second.roster memory

/-- A run is answered like the runs that are asked for at one moment, at which both readings find
the same store. -/
def AnsweredAt (store : Store) (worker : Worker σ) (id : Int) (memory : σ)
    (answered : Response × σ) : Prop :=
  ∀ now r, PostsTo r .runs id →
    (answer worker now r store memory).1 = answered.1 ∧
      (answer worker now r store memory).2.2 = answered.2

/-- The workflow with an id was deleted by one of the changes, and up to its deletion the agents
have never been as they are at last. -/
def Torn (before : Store) (changes : List (Instant × Change)) (id : Int) : Prop :=
  ∃ earlier now later, changes = earlier ++ (now, .deleteWorkflow id) :: later ∧
    ∀ i ≤ earlier.length, (before.replay (earlier.take i)).workflow? id ≠ none ∧
      (before.replay (earlier.take i)).agents ≠ (before.replay changes).agents

/-- A run is answered as at a moment when the store had the same workflow and the same agents. -/
theorem answeredAt_runAcross (worker : Worker σ) {id : Int} {first second store : Store}
    (hworkflow : store.workflow? id = first.workflow? id) (hagents : store.agents = second.agents)
    (memory : σ) : AnsweredAt store worker id memory (runAcross worker id first second memory) := by
  intro now r hposts
  have hroster : store.roster = second.roster := by
    rw [Store.roster, Store.listAgents, hagents, Store.roster, Store.listAgents]
  rw [answer_of_postsTo_runs worker now store memory hposts, hworkflow, hroster]
  exact ⟨rfl, rfl⟩

/-- A run that finds no workflow is answered as at a moment when there was none. -/
theorem answeredAt_runAcross_of_none (worker : Worker σ) {id : Int} {first second : Store}
    (hnone : first.workflow? id = none) (memory : σ) :
    AnsweredAt first worker id memory (runAcross worker id first second memory) := by
  intro now r hposts
  rw [answer_of_postsTo_runs worker now first memory hposts, runAcross, hnone]
  exact ⟨rfl, rfl⟩

/-- **Snapshots.** Whatever other clients change between the two readings of a run, it is answered
like a run at the moment before the first of these changes, after the last one, or in between;
unless its workflow was deleted in between and the agents have changed in a way that they had not
before that. In each case it is the run of the workflow as it was at the first reading with the
agents as they are at the second one. The counters of ids are taken not to have run out. -/
theorem answeredAt_runAcross_replay (history changes : List (Instant × Change))
    (hclient : ∀ step ∈ changes, step.2.ByClient)
    (hfit : ((Store.ofHistory history).replay changes).CountersFit) (worker : Worker σ) (id : Int)
    (memory : σ) :
    let before := Store.ofHistory history
    let after := before.replay changes
    (¬Torn before changes id → ∃ i ≤ changes.length,
      (before.replay (changes.take i)).CountersFit ∧
      AnsweredAt (before.replay (changes.take i)) worker id memory
        (runAcross worker id before after memory)) ∧
    AnsweredAt { after with workflows := before.workflows } worker id memory
      (runAcross worker id before after memory) := by
  intro before after
  refine ⟨fun hwhole => ?_, answeredAt_runAcross worker rfl rfl memory⟩
  cases hfound : before.workflow? id with
  | none =>
    exact ⟨0, Nat.zero_le _, hfit.take 0, answeredAt_runAcross_of_none worker hfound memory⟩
  | some workflow =>
    rcases (Store.holds_ofHistory hfound).replay hclient with
      hkept | ⟨earlier, now, later, rfl, hkept⟩
    · refine ⟨changes.length, Nat.le_refl _, hfit.take _, ?_⟩
      rw [List.take_length]
      exact answeredAt_runAcross worker (hkept.get?.trans hfound.symm) rfl memory
    · -- The workflow was there up to its deletion, at some moment with the agents that are read.
      have hthere (i : Nat) (hi : i ≤ earlier.length) :
          (before.replay (earlier.take i)).workflow? id = some workflow := (hkept i hi).get?
      obtain ⟨i, hi, hagents⟩ : ∃ i ≤ earlier.length,
          (before.replay (earlier.take i)).agents = after.agents := by
        by_contra hnever
        refine hwhole ⟨earlier, now, later, rfl, fun i hi => ⟨?_, fun heq => hnever ⟨i, hi, heq⟩⟩⟩
        rw [hthere i hi]
        exact Option.some_ne_none workflow
      refine ⟨i, by rw [List.length_append]; omega, hfit.take i, ?_⟩
      rw [List.take_append_of_le_length hi]
      exact answeredAt_runAcross worker ((hthere i hi).trans hfound.symm) hagents memory

/-- When the workflow of a rehearsal is deleted after its agent was created, a run that began before
both is answered as at a moment in between. -/
theorem answeredAt_runAcross_replay_rehearsal :
    let before := Store.ofHistory [(rehearsalTime, .insertWorkflow rehearsal)]
    let changes := [(rehearsalTime, Change.createAgent ⟨"Ann", none, defaultModel, ""⟩),
      (rehearsalTime, .deleteWorkflow 1)]
    (∀ step ∈ changes, step.2.ByClient) ∧ (before.replay changes).CountersFit ∧
    ¬Torn before changes 1 ∧ ∃ i ≤ 2, (before.replay (changes.take i)).CountersFit ∧
      AnsweredAt (before.replay (changes.take i)) Worker.counting 1 ()
        (runAcross Worker.counting 1 before (before.replay changes) ()) := by
  intro before changes
  have hclient : ∀ step ∈ changes, step.2.ByClient := by simp [changes, Change.ByClient]
  have hfit : (before.replay changes).CountersFit := ⟨by decide, by decide⟩
  have hwhole : ¬Torn before changes 1 := by
    rintro ⟨earlier, now, later, hchanges, hnever⟩
    obtain _ | ⟨first, _ | ⟨second, rest⟩⟩ := earlier
    · cases (List.cons.inj hchanges).1
    · obtain ⟨rfl, -⟩ := List.cons.inj hchanges
      exact (hnever 1 (Nat.le_refl 1)).2 rfl
    · have hrest := (List.cons.inj (List.cons.inj hchanges).2).2
      cases rest <;> cases hrest
  exact ⟨hclient, hfit, hwhole,
    (answeredAt_runAcross_replay _ changes hclient hfit _ 1 ()).1 hwhole⟩

/-- The tasks of the rehearsal, in the order of their steps. -/
theorem normalize_rehearsal :
    rehearsal.tasks.normalize = .ok [⟨0, some 1, "Wait"⟩, ⟨1, some 1, "Run"⟩] := by
  have hentries : rehearsal.tasks.normalize =
      .ok (Task.inOrder [⟨1, some 1, "Run"⟩, ⟨0, some 1, "Wait"⟩]) := by rfl
  exact hentries.trans (congrArg Except.ok (Task.inOrder_pair _ _))

/-- With its agent the rehearsal runs to its end. -/
theorem status_runResponse_rehearsal :
    (runResponse Worker.counting (some rehearsal) rehearsalStore.roster ()).1.status = 200 := by
  have hcompile : rehearsal.compile rehearsalStore.roster = .ok ⟨"Rehearsal",
      [⟨"step_1_Ann", rehearsalAgent, "Wait"⟩, ⟨"step_2_Ann", rehearsalAgent, "Run"⟩],
      List.cons_ne_nil _ _, by decide⟩ := by
    rw [Workflow.compile_of_normalize normalize_rehearsal]
    rfl
  simp only [runResponse, Workflow.run, hcompile]
  rfl

/-- Without agents the rehearsal is refused. -/
theorem runResponse_rehearsal_of_no_agents :
    runResponse Worker.counting (some rehearsal) Store.empty.roster () =
      ((WorkflowError.emptyChain "Rehearsal").response, ()) := by
  have hcompile : rehearsal.compile Store.empty.roster = .error (.emptyChain "Rehearsal") := by
    rw [Workflow.compile_of_normalize normalize_rehearsal]
    rfl
  simp only [runResponse, Workflow.run, hcompile]

/-- When the workflow of a rehearsal is deleted and its agent is created after that, a run that
began before both is answered as at no moment: there was never such a workflow with such an agent.
-/
theorem not_answeredAt_runAcross_rehearsal :
    let before := Store.ofHistory [(rehearsalTime, .insertWorkflow rehearsal)]
    let changes := [(rehearsalTime, Change.deleteWorkflow 1),
      (rehearsalTime, .createAgent ⟨"Ann", none, defaultModel, ""⟩)]
    (∀ step ∈ changes, step.2.ByClient) ∧ ¬∃ i ≤ changes.length,
      AnsweredAt (before.replay (changes.take i)) Worker.counting 1 ()
        (runAcross Worker.counting 1 before (before.replay changes) ()) := by
  intro before changes
  have hclient : ∀ step ∈ changes, step.2.ByClient := by simp [changes, Change.ByClient]
  have hfound : before.workflow? 1 = some rehearsal := by rfl
  have hroster : (before.replay changes).roster = rehearsalStore.roster := by rfl
  refine ⟨hclient, ?_⟩
  rintro ⟨i, hi, hanswered⟩
  have hposts : PostsTo ⟨.post, "/api/v1/workflows/1/run", [], .empty⟩ .runs 1 :=
    postsTo_of_idText (by decide) rfl (by decide) rfl fun _ hsegment => ⟨hsegment, rfl⟩
  have hstatus := congrArg Response.status (hanswered rehearsalTime _ hposts).1
  rw [answer_of_postsTo_runs Worker.counting rehearsalTime _ () hposts, runAcross, hfound, hroster,
    status_runResponse_rehearsal] at hstatus
  have hi : i ≤ 2 := hi
  obtain rfl | rfl | rfl : i = 0 ∨ i = 1 ∨ i = 2 := by omega
  · -- Before the changes there is no agent yet, and after that there is no workflow any more.
    have hatFirst : before.replay (changes.take 0) = before := rfl
    have hnoAgents : before.roster = Store.empty.roster := by rfl
    rw [hatFirst, hfound, hnoAgents, runResponse_rehearsal_of_no_agents] at hstatus
    cases hstatus
  · cases hstatus
  · cases hstatus

end AgentFlow.Api
