import AgentFlow.Chain.Run
import AgentFlow.Proofs.ExecutionState

/-!
# What a run does

A run is followed by its steps that succeed, each with the output of its worker. Whatever the worker
does, either all steps succeed or some first step fails. In both cases the calls of the worker, the
result and the worker's memory are determined by the steps that have succeeded: the worker is called
for one step after another, each time on the initial state with the updates of the earlier steps,
and is not called again after a failure.
-/

namespace AgentFlow

variable {σ τ : Type}

/-- One call of a worker. -/
structure Call where
  assignment : Assignment
  answer : Except String String

/-- A worker that does what the given one does and keeps a log of its calls, the latest last. -/
def Worker.logged (worker : Worker σ) : Worker (σ × List Call) where
  name := worker.name
  perform assignment memory :=
    let (answer, after) := worker.perform assignment memory.1
    (answer, after, memory.2 ++ [⟨assignment, answer⟩])

/-- A step that has succeeded, and the output of its worker. -/
structure Performance where
  node : Node
  output : String

namespace Performance

/-- What the step has contributed. -/
def update (p : Performance) : StateUpdate := .ofStep p.node.agent.name p.output

/-- The message that the step has contributed. -/
def message (p : Performance) : Message := ⟨"assistant", p.output, some p.node.agent.name⟩

end Performance

/-- The calls of a worker for steps that succeed: the one for each step is made on the initial state
with the updates of the steps before it. -/
def callsFor (initial : ExecutionState) (performed : List Performance) : List Call :=
  performed.mapIdx fun k p =>
    ⟨⟨p.node.agent, p.node.instruction, initial.applyAll ((performed.take k).map (·.update))⟩,
      .ok p.output⟩

/-- The output of the last step by an agent of the given name. -/
def lastOutput? (performed : List Performance) (name : String) : Option String :=
  performed.reverse.findSome? fun p => if p.node.agent.name = name then some p.output else none

/-- Steps succeed one after another from a state and a memory on, and leave the second memory: the
worker is asked for each of them on the state that those before it have left. -/
inductive Succeed (worker : Worker σ) : List Performance → ExecutionState → σ → σ → Prop
  | nil {state : ExecutionState} {memory : σ} : Succeed worker [] state memory memory
  | cons {p : Performance} {rest : List Performance} {state : ExecutionState} {m₁ m₂ m₃ : σ} :
      worker.perform ⟨p.node.agent, p.node.instruction, state⟩ m₁ = (.ok p.output, m₂) →
      Succeed worker rest (state.apply p.update) m₂ m₃ →
      Succeed worker (p :: rest) state m₁ m₃

/-- Steps all succeed, or some first of them fails. -/
theorem succeed_or_fail (worker : Worker σ) (nodes : List Node) (state : ExecutionState)
    (memory : σ) :
    (∃ performed after, performed.map (·.node) = nodes ∧
        Succeed worker performed state memory after) ∨
      ∃ performed node rest reason before after, nodes = performed.map (·.node) ++ node :: rest ∧
        Succeed worker performed state memory before ∧
        worker.perform ⟨node.agent, node.instruction,
          state.applyAll (performed.map (·.update))⟩ before = (.error reason, after) := by
  induction nodes generalizing state memory with
  | nil => exact .inl ⟨[], memory, rfl, .nil⟩
  | cons node rest ih =>
    cases hcall : worker.perform ⟨node.agent, node.instruction, state⟩ memory with
    | mk answer after =>
      cases answer with
      | error reason => exact .inr ⟨[], node, rest, reason, memory, after, rfl, .nil, hcall⟩
      | ok output =>
        let p : Performance := ⟨node, output⟩
        rcases ih (state.apply p.update) after with
          ⟨performed, last, rfl, hsucceed⟩ |
          ⟨performed, other, others, reason, before, last, rfl, hsucceed, hfail⟩
        · exact .inl ⟨p :: performed, last, rfl, .cons hcall hsucceed⟩
        · exact .inr ⟨p :: performed, other, others, reason, before, last, rfl,
            .cons hcall hsucceed, hfail⟩

/-- The call for a step is made first, the others on the state that it leaves. -/
theorem callsFor_cons (state : ExecutionState) (p : Performance) (rest : List Performance) :
    callsFor state (p :: rest) =
      ⟨⟨p.node.agent, p.node.instruction, state⟩, .ok p.output⟩ ::
        callsFor (state.apply p.update) rest := by
  unfold callsFor
  rw [List.mapIdx_cons]
  simp only [List.take_zero, List.take_succ_cons, List.map_nil, List.map_cons,
    ExecutionState.applyAll_nil, ExecutionState.applyAll_cons]

/-- The log of a worker grows by the calls for the steps that succeed. -/
theorem Succeed.logged {worker : Worker σ} {performed : List Performance}
    {state : ExecutionState} {before after : σ} (h : Succeed worker performed state before after)
    (log : List Call) :
    Succeed worker.logged performed state (before, log)
      (after, log ++ callsFor state performed) := by
  induction h generalizing log with
  | nil => simpa [callsFor] using Succeed.nil
  | @cons p rest state m₁ m₂ m₃ hcall _ ih =>
    have hlogged : worker.logged.perform ⟨p.node.agent, p.node.instruction, state⟩ (m₁, log) =
        (.ok p.output, m₂, log ++ [⟨⟨p.node.agent, p.node.instruction, state⟩, .ok p.output⟩]) := by
      simp only [Worker.logged, hcall]
    have hrest := ih (log ++ [⟨⟨p.node.agent, p.node.instruction, state⟩, .ok p.output⟩])
    rw [List.append_assoc, List.singleton_append, ← callsFor_cons] at hrest
    exact .cons hlogged hrest

/-- A step contributes the update made of its worker's output. -/
theorem Performance.perform_eq {worker : Worker σ} {p : Performance} {state : ExecutionState}
    {before after : σ}
    (hcall : worker.perform ⟨p.node.agent, p.node.instruction, state⟩ before =
      (.ok p.output, after)) :
    p.node.perform worker state before = (.ok p.update, after) := by
  simp only [Node.perform, hcall]
  rfl

/-- A step fails for the reason of its worker. -/
theorem Node.perform_of_error {worker : Worker σ} {node : Node} {state : ExecutionState}
    {before after : σ} {reason : String}
    (hfail : worker.perform ⟨node.agent, node.instruction, state⟩ before =
      (.error reason, after)) :
    node.perform worker state before = (.error reason, after) := by
  simp only [Node.perform, hfail]
  rfl

/-- Steps that succeed hand on to the steps behind them. -/
theorem runNodes_append {worker : Worker σ} {performed : List Performance}
    {state : ExecutionState} {before after : σ} (h : Succeed worker performed state before after)
    (rest : List Node) :
    runNodes worker (performed.map (·.node) ++ rest) state before =
      runNodes worker rest (state.applyAll (performed.map (·.update))) after := by
  induction h with
  | nil => rfl
  | @cons p others state m₁ m₂ m₃ hcall _ ih =>
    rw [List.map_cons, List.cons_append, runNodes, Performance.perform_eq hcall]
    exact ih

/-- A step that fails ends the run; those behind it are not looked at. -/
theorem runNodes_of_error {worker : Worker σ} {node : Node} {state : ExecutionState}
    {before after : σ} {reason : String}
    (hfail : worker.perform ⟨node.agent, node.instruction, state⟩ before = (.error reason, after))
    (rest : List Node) :
    runNodes worker (node :: rest) state before = (.error (.stepFailed node.id reason), after) := by
  rw [runNodes, Node.perform_of_error hfail]

section Result

variable {chain : Chain} {worker : Worker σ} {initial : ExecutionState}
  {performed : List Performance} {before after : σ}

/-- A run whose steps all succeed ends in the initial state with all of their updates. -/
theorem Chain.run_of_succeed (hnodes : performed.map (·.node) = chain.nodes)
    (h : Succeed worker performed initial before after) :
    chain.run worker initial before =
      (.ok (initial.applyAll (performed.map (·.update))), after) := by
  have hrun := runNodes_append h []
  rw [List.append_nil, hnodes] at hrun
  exact hrun

/-- A run with a step that fails ends with the id of that step and the reason of its worker. -/
theorem Chain.run_of_fail {node : Node} {rest : List Node} {reason : String} {last : σ}
    (hnodes : chain.nodes = performed.map (·.node) ++ node :: rest)
    (h : Succeed worker performed initial before after)
    (hfail : worker.perform ⟨node.agent, node.instruction,
      initial.applyAll (performed.map (·.update))⟩ after = (.error reason, last)) :
    chain.run worker initial before = (.error (.stepFailed node.id reason), last) := by
  unfold Chain.run
  rw [hnodes, runNodes_append h, runNodes_of_error hfail]

/-- Each step that succeeds appends one message, in the order of the steps. -/
theorem messages_of_performed (initial : ExecutionState) (performed : List Performance) :
    (initial.applyAll (performed.map (·.update))).messages =
      initial.messages ++ performed.map (·.message) := by
  rw [ExecutionState.messages_applyAll, List.flatMap_map]
  congr 1
  induction performed with
  | nil => rfl
  | cons p rest ih => rw [List.flatMap_cons, ih]; rfl

/-- The result under a name is the output of the last step by an agent of that name, and else what
it was initially. -/
theorem get?_results_of_performed (initial : ExecutionState) (performed : List Performance)
    (name : String) :
    (initial.applyAll (performed.map (·.update))).results.get? name =
      (lastOutput? performed name).or (initial.results.get? name) := by
  rw [ExecutionState.get?_results_applyAll, ← List.map_reverse, List.findSome?_map]
  rfl

/-- A name has an output exactly if it is that of an agent of some step. -/
theorem lastOutput?_isSome_iff {name : String} :
    (lastOutput? performed name).isSome = true ↔ ∃ p ∈ performed, p.node.agent.name = name := by
  unfold lastOutput?
  rw [List.isSome_findSome?, List.any_eq_true]
  simp

/-- The current agent is that of the last step. -/
theorem currentAgent_of_performed (initial : ExecutionState) (hperformed : performed ≠ []) :
    (initial.applyAll (performed.map (·.update))).currentAgent =
      (performed.getLast hperformed).node.agent.name := by
  rw [ExecutionState.currentAgent_applyAll]
  rcases List.eq_nil_or_concat performed with rfl | ⟨others, p, rfl⟩
  · exact absurd rfl hperformed
  · simp [Performance.update, StateUpdate.ofStep]

/-- The results are under the names that had one initially and those of the agents of steps. -/
theorem mem_keys_of_performed (initial : ExecutionState) (performed : List Performance)
    (name : String) :
    name ∈ (initial.applyAll (performed.map (·.update))).results.keys ↔
      name ∈ initial.results.keys ∨ ∃ p ∈ performed, p.node.agent.name = name := by
  rw [SortedMap.mem_keys_iff, SortedMap.mem_keys_iff, get?_results_of_performed,
    ← lastOutput?_isSome_iff, Option.isSome_or, Bool.or_eq_true, or_comm]

end Result

/-- A run fails with one of its steps or not at all. -/
theorem Chain.run_error_cases {chain : Chain} {worker : Worker σ} {initial : ExecutionState}
    {memory after : σ} {e : WorkflowError}
    (h : chain.run worker initial memory = (.error e, after)) :
    ∃ node reason, e = .stepFailed node reason := by
  rcases succeed_or_fail worker chain.nodes initial memory with
    ⟨performed, last, hnodes, hsucceed⟩ |
    ⟨performed, node, rest, reason, before, last, hnodes, hsucceed, hfail⟩
  · rw [Chain.run_of_succeed hnodes hsucceed] at h
    cases h
  · rw [Chain.run_of_fail hnodes hsucceed hfail] at h
    cases h
    exact ⟨node.id, reason, rfl⟩

/-- What every call leaves true of the worker's memory, steps leave true. -/
theorem runNodes_preserves {worker : Worker σ} {P : σ → Prop}
    (hcall : ∀ assignment memory, P memory → P (worker.perform assignment memory).2)
    (nodes : List Node) (state : ExecutionState) {memory : σ} (h : P memory) :
    P (runNodes worker nodes state memory).2 := by
  induction nodes generalizing state memory with
  | nil => exact h
  | cons node rest ih =>
    have hnode : P (node.perform worker state memory).2 := hcall _ memory h
    rw [runNodes]
    split
    next update after heq =>
      rw [heq] at hnode
      exact ih _ hnode
    next reason after heq =>
      rw [heq] at hnode
      exact hnode

/-- What every call leaves true of the worker's memory, a run leaves true. -/
theorem Chain.run_preserves {worker : Worker σ} {P : σ → Prop}
    (hcall : ∀ assignment memory, P memory → P (worker.perform assignment memory).2)
    (chain : Chain) (initial : ExecutionState) {memory : σ} (h : P memory) :
    P (chain.run worker initial memory).2 :=
  runNodes_preserves hcall chain.nodes initial h

/-- A log ends with the call that failed, if one did. -/
theorem Worker.logged_of_error {worker : Worker σ} {assignment : Assignment} {before after : σ}
    {reason : String} (hfail : worker.perform assignment before = (.error reason, after))
    (log : List Call) :
    worker.logged.perform assignment (before, log) =
      (.error reason, after, log ++ [⟨assignment, .error reason⟩]) := by
  simp only [logged, hfail]

/-- Keeping a log changes nothing in a run; some call is made in each. -/
theorem Chain.run_logged (chain : Chain) (worker : Worker σ) (initial : ExecutionState)
    (memory : σ) :
    ∃ calls, calls ≠ [] ∧ chain.run worker.logged initial (memory, []) =
      ((chain.run worker initial memory).1, (chain.run worker initial memory).2, calls) := by
  rcases succeed_or_fail worker chain.nodes initial memory with
    ⟨performed, after, hnodes, h⟩ | ⟨performed, node, rest, reason, before, after, hnodes, h, hfail⟩
  · refine ⟨callsFor initial performed, ?_, ?_⟩
    · rw [callsFor, ne_eq, List.mapIdx_eq_nil_iff]
      rintro rfl
      exact chain.nonempty hnodes.symm
    · rw [Chain.run_of_succeed hnodes h]
      exact Chain.run_of_succeed hnodes (h.logged [])
  · have hlogged := Chain.run_of_fail hnodes (h.logged []) (Worker.logged_of_error hfail _)
    rw [Chain.run_of_fail hnodes h hfail]
    exact ⟨_, List.concat_ne_nil _ _, hlogged⟩

/-- **Running.** Either every step of the chain succeeds, and the worker has been called once for
each of them in the order of the chain, the call for the `k`-th step being made on the initial state
with the updates of the `k` steps before it. Then the messages of the steps follow the initial ones,
the result under each name is the output of the last step by an agent of that name, or else the
initial one, and the current agent is that of the last step. Or there is a first step that fails:
then the run ends with its id and reason, and the call for it was the last one. -/
theorem Chain.run_calls (chain : Chain) (worker : Worker σ) (initial : ExecutionState)
    (memory : σ) :
    (∃ performed state after, performed.map (·.node) = chain.nodes ∧
      chain.run worker initial memory = (.ok state, after) ∧
      chain.run worker.logged initial (memory, []) =
        (.ok state, after, callsFor initial performed) ∧
      state.messages = initial.messages ++ performed.map (·.message) ∧
      (∀ name, state.results.get? name =
        (lastOutput? performed name).or (initial.results.get? name)) ∧
      (∀ name, name ∈ state.results.keys ↔
        name ∈ initial.results.keys ∨ ∃ node ∈ chain.nodes, node.agent.name = name) ∧
      state.currentAgent = (chain.nodes.getLast chain.nonempty).agent.name) ∨
    (∃ performed node rest reason after, chain.nodes = performed.map (·.node) ++ node :: rest ∧
      chain.run worker initial memory = (.error (.stepFailed node.id reason), after) ∧
      chain.run worker.logged initial (memory, []) =
        (.error (.stepFailed node.id reason), after, callsFor initial performed ++
          [⟨⟨node.agent, node.instruction, initial.applyAll (performed.map (·.update))⟩,
            .error reason⟩])) := by
  rcases succeed_or_fail worker chain.nodes initial memory with
    ⟨performed, after, hnodes, h⟩ | ⟨performed, node, rest, reason, before, after, hnodes, h, hfail⟩
  · left
    have hperformed : performed ≠ [] := by
      intro hnil
      apply chain.nonempty
      rw [← hnodes, hnil, List.map_nil]
    have hlast : (chain.nodes.getLast chain.nonempty) = (performed.getLast hperformed).node := by
      simp only [← hnodes, List.getLast_map]
    refine ⟨performed, _, after, hnodes, Chain.run_of_succeed hnodes h,
      Chain.run_of_succeed hnodes (h.logged []), messages_of_performed initial performed,
      get?_results_of_performed initial performed, ?_, ?_⟩
    · intro name
      rw [mem_keys_of_performed, ← hnodes]
      simp only [List.mem_map, exists_exists_and_eq_and]
    · rw [hlast]
      exact currentAgent_of_performed initial hperformed
  · right
    exact ⟨performed, node, rest, reason, after, hnodes, Chain.run_of_fail hnodes h hfail,
      Chain.run_of_fail hnodes (h.logged []) (Worker.logged_of_error hfail _)⟩

end AgentFlow
