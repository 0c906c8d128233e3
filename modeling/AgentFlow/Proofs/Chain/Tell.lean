import AgentFlow.Proofs.Chain.Run

/-!
# What a run tells

A run of which a listener is told does what it does unobserved, and tells every listener the same
events in the same order, whether or not they are taken. Each step that succeeds is bracketed by two
events, a step that fails is begun and not completed, and one event ends the run. The updates that
are told lead from the initial state to the final one.
-/

namespace AgentFlow

variable {σ τ : Type}

/-- What is told of a step that succeeds. -/
def Performance.events (p : Performance) : List RunEvent :=
  [.stepStarted p.node.id p.node.agent.name, .stepCompleted p.node.id p.update]

/-- Tells a listener of events, from the first to the last. -/
def Listener.tellAll (listener : Listener τ) (events : List RunEvent) (heard : τ) : τ :=
  events.foldl (fun heard event => listener.tell event heard) heard

/-- The updates of the steps whose completion is told. -/
def completedUpdates (events : List RunEvent) : List StateUpdate :=
  events.filterMap fun event =>
    match event with
    | .stepCompleted _ update => some update
    | _ => none

/-- Events in two parts are told one part after the other. -/
theorem Listener.tellAll_append (listener : Listener τ) (events later : List RunEvent) (heard : τ) :
    listener.tellAll (events ++ later) heard =
      listener.tellAll later (listener.tellAll events heard) :=
  List.foldl_append

/-- An attentive listener remembers all that it is told. -/
theorem Listener.tellAll_attentive (events heard : List RunEvent) :
    Listener.attentive.tellAll events heard = heard ++ events := by
  induction events generalizing heard with
  | nil => exact (List.append_nil heard).symm
  | cons event rest ih =>
    have hstep : Listener.attentive.tellAll (event :: rest) heard =
        Listener.attentive.tellAll rest (heard ++ [event]) := rfl
    rw [hstep, ih, List.append_assoc, List.singleton_append]

/-- The events of steps that succeed tell their updates, in the order of the steps. -/
theorem completedUpdates_events (performed : List Performance) (state : ExecutionState) :
    completedUpdates (performed.flatMap (·.events) ++ [.finished state]) =
      performed.map (·.update) := by
  induction performed with
  | nil => rfl
  | cons p rest ih =>
    rw [List.flatMap_cons, List.append_assoc, List.map_cons, ← ih]
    rfl

/-- Steps that succeed are told of one by one, and hand on to the steps behind them. -/
theorem tellNodes_append {worker : Worker σ} {performed : List Performance}
    {state : ExecutionState} {before after : σ} (h : Succeed worker performed state before after)
    (listener : Listener τ) (rest : List Node) (heard : τ) :
    tellNodes worker listener (performed.map (·.node) ++ rest) state before heard =
      tellNodes worker listener rest (state.applyAll (performed.map (·.update))) after
        (listener.tellAll (performed.flatMap (·.events)) heard) := by
  induction h generalizing heard with
  | nil => rfl
  | @cons p others state m₁ m₂ m₃ hcall _ ih =>
    rw [List.map_cons, List.cons_append, tellNodes, Performance.perform_eq hcall]
    exact ih _

/-- A step that fails is told to begin and not to be completed. -/
theorem tellNodes_of_error {worker : Worker σ} {node : Node} {state : ExecutionState}
    {before after : σ} {reason : String}
    (hfail : worker.perform ⟨node.agent, node.instruction, state⟩ before = (.error reason, after))
    (listener : Listener τ) (rest : List Node) (heard : τ) :
    tellNodes worker listener (node :: rest) state before heard =
      (.error (.stepFailed node.id reason), after,
        listener.tell (.stepStarted node.id node.agent.name) heard) := by
  rw [tellNodes, Node.perform_of_error hfail]

section Result

variable {chain : Chain} {worker : Worker σ} {initial : ExecutionState}
  {performed : List Performance} {before after : σ}

/-- A run whose steps all succeed tells of each of them and then of its final state. -/
theorem Chain.tell_of_succeed (hnodes : performed.map (·.node) = chain.nodes)
    (h : Succeed worker performed initial before after) (listener : Listener τ) (heard : τ) :
    chain.tell worker listener initial before heard =
      (.ok (initial.applyAll (performed.map (·.update))), after,
        listener.tellAll (performed.flatMap (·.events) ++
          [.finished (initial.applyAll (performed.map (·.update)))]) heard) := by
  have htold := tellNodes_append h listener [] heard
  rw [List.append_nil, hnodes] at htold
  simp only [Chain.tell, htold, tellNodes, lastEvent, Listener.tellAll_append]
  rfl

/-- A run with a step that fails tells of the steps before it, of its begin and of its failure. -/
theorem Chain.tell_of_fail {node : Node} {rest : List Node} {reason : String} {last : σ}
    (hnodes : chain.nodes = performed.map (·.node) ++ node :: rest)
    (h : Succeed worker performed initial before after)
    (hfail : worker.perform ⟨node.agent, node.instruction,
      initial.applyAll (performed.map (·.update))⟩ after = (.error reason, last))
    (listener : Listener τ) (heard : τ) :
    chain.tell worker listener initial before heard =
      (.error (.stepFailed node.id reason), last,
        listener.tellAll (performed.flatMap (·.events) ++
          [.stepStarted node.id node.agent.name, .failed (some node.id) reason]) heard) := by
  simp only [Chain.tell, hnodes, tellNodes_append h, tellNodes_of_error hfail, lastEvent,
    Listener.tellAll_append]
  rfl

end Result

/-- Who is there for a run hears of its result at last, which is that of the run unheard. -/
theorem Chain.watch_eq_run (chain : Chain) (worker : Worker σ) (initial : ExecutionState)
    (memory : σ) :
    ∃ events, chain.watch worker true initial memory = (events, chain.run worker initial memory) ∧
      events.getLast? = some (lastEvent (chain.run worker initial memory).1) := by
  rcases succeed_or_fail worker chain.nodes initial memory with
    ⟨performed, after, hnodes, h⟩ | ⟨performed, node, rest, reason, before, after, hnodes, h, hfail⟩
  · rw [Chain.run_of_succeed hnodes h]
    refine ⟨performed.flatMap (·.events) ++ [.finished _], ?_, List.getLast?_concat⟩
    simp only [watch, if_true, Chain.tell_of_succeed hnodes h, Listener.tellAll_attentive,
      List.nil_append]
  · rw [Chain.run_of_fail hnodes h hfail]
    refine ⟨performed.flatMap (·.events) ++
      [.stepStarted node.id node.agent.name, .failed (some node.id) reason], ?_, ?_⟩
    · simp only [watch, if_true, Chain.tell_of_fail hnodes h hfail, Listener.tellAll_attentive,
        List.nil_append]
    · rw [List.getLast?_append]
      rfl

/-- **Telling of a run.** There are events that every listener is told, in this order and whether or
not it takes them, and the result and the worker's memory are those of the run that is not told of;
an attentive listener hears exactly these events. If every step succeeds, they are the begin and the
completion of each step, with its update, and then the final state, to which these updates lead from
the initial one. If a step fails, they end with its begin and its failure, after the begins and the
completions of the steps before it. -/
theorem Chain.tell_eq_run (chain : Chain) (worker : Worker σ) (initial : ExecutionState)
    (memory : σ) :
    ∃ (result : Except WorkflowError ExecutionState) (after : σ) (events : List RunEvent),
      chain.run worker initial memory = (result, after) ∧
      (∀ (τ : Type) (listener : Listener τ) (heard : τ),
        chain.tell worker listener initial memory heard =
          (result, after, listener.tellAll events heard)) ∧
      chain.tell worker .attentive initial memory [] = (result, after, events) ∧
      ((∃ performed state, performed.map (·.node) = chain.nodes ∧ result = .ok state ∧
          chain.run worker.logged initial (memory, []) =
            (result, after, callsFor initial performed) ∧
          events = performed.flatMap (·.events) ++ [.finished state] ∧
          initial.applyAll (completedUpdates events) = state) ∨
        (∃ performed node rest reason, chain.nodes = performed.map (·.node) ++ node :: rest ∧
          result = .error (.stepFailed node.id reason) ∧
          chain.run worker.logged initial (memory, []) =
            (result, after, callsFor initial performed ++
              [⟨⟨node.agent, node.instruction, initial.applyAll (performed.map (·.update))⟩,
                .error reason⟩]) ∧
          events = performed.flatMap (·.events) ++
            [.stepStarted node.id node.agent.name, .failed (some node.id) reason])) := by
  rcases succeed_or_fail worker chain.nodes initial memory with
    ⟨performed, after, hnodes, h⟩ | ⟨performed, node, rest, reason, before, after, hnodes, h, hfail⟩
  · refine ⟨_, after, _, Chain.run_of_succeed hnodes h,
      fun _ => Chain.tell_of_succeed hnodes h, ?_, .inl ⟨performed, _, hnodes, rfl,
        Chain.run_of_succeed hnodes (h.logged []), rfl, ?_⟩⟩
    · rw [Chain.tell_of_succeed hnodes h, Listener.tellAll_attentive, List.nil_append]
    · rw [completedUpdates_events]
  · refine ⟨_, after, _, Chain.run_of_fail hnodes h hfail,
      fun _ => Chain.tell_of_fail hnodes h hfail, ?_, .inr ⟨performed, node, rest, reason, hnodes,
        rfl, Chain.run_of_fail hnodes (h.logged []) (Worker.logged_of_error hfail _), rfl⟩⟩
    rw [Chain.tell_of_fail hnodes h hfail, Listener.tellAll_attentive, List.nil_append]

end AgentFlow
