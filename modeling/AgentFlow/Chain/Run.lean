import AgentFlow.Chain
import AgentFlow.RunEvent
import AgentFlow.Worker

/-!
# Running chains

A run performs the steps of a chain in order, each on the state that the steps before it have left,
and ends with the first failure. It can be told of while it goes on, to a listener who need not take
what is told and may go away at any time; the run takes no notice.
-/

namespace AgentFlow

variable {σ τ : Type}

/-- Performs a step: what it contributes, or why it failed. -/
def Node.perform (node : Node) (worker : Worker σ) (state : ExecutionState) (memory : σ) :
    Except String StateUpdate × σ :=
  let (output, memory) := worker.perform ⟨node.agent, node.instruction, state⟩ memory
  (output.map (StateUpdate.ofStep node.agent.name), memory)

/-- Performs steps in order from a state on. -/
def runNodes (worker : Worker σ) :
    List Node → ExecutionState → σ → Except WorkflowError ExecutionState × σ
  | [], state, memory => (.ok state, memory)
  | node :: rest, state, memory =>
    match node.perform worker state memory with
    | (.ok update, memory) => runNodes worker rest (state.apply update) memory
    | (.error reason, memory) => (.error (.stepFailed node.id reason), memory)

/-- The final state of a run, or why it failed, and the worker's memory after it. -/
def Chain.run (chain : Chain) (worker : Worker σ) (initial : ExecutionState) (memory : σ) :
    Except WorkflowError ExecutionState × σ :=
  runNodes worker chain.nodes initial memory

/-- A listener with a memory of type `τ`. It tells whether it takes an event; one that has gone away
takes none. -/
structure Listener (τ : Type) where
  hear : RunEvent → τ → Bool × τ

namespace Listener

/-- Takes every event and remembers all of them. -/
def attentive : Listener (List RunEvent) := ⟨fun event heard => (true, heard ++ [event])⟩

/-- Has gone away. -/
def absent : Listener τ := ⟨fun _ heard => (false, heard)⟩

/-- Tells the listener of an event. Whether it takes the event is of no consequence. -/
def tell (listener : Listener τ) (event : RunEvent) (heard : τ) : τ := (listener.hear event heard).2

end Listener

/-- Performs steps in order from a state on and tells when each one begins and when it has ended. -/
def tellNodes (worker : Worker σ) (listener : Listener τ) :
    List Node → ExecutionState → σ → τ → Except WorkflowError ExecutionState × σ × τ
  | [], state, memory, heard => (.ok state, memory, heard)
  | node :: rest, state, memory, heard =>
    let heard := listener.tell (.stepStarted node.id node.agent.name) heard
    match node.perform worker state memory with
    | (.error reason, memory) => (.error (.stepFailed node.id reason), memory, heard)
    | (.ok update, memory) =>
      let heard := listener.tell (.stepCompleted node.id update) heard
      tellNodes worker listener rest (state.apply update) memory heard

/-- The event that ends a run. -/
def lastEvent : Except WorkflowError ExecutionState → RunEvent
  | .ok state => .finished state
  | .error (.stepFailed node reason) => .failed (some node) reason
  | .error e => .failed none e.message

/-- A run of which a listener is told: its result, and the memories of the worker and of the
listener after it. -/
def Chain.tell (chain : Chain) (worker : Worker σ) (listener : Listener τ)
    (initial : ExecutionState) (memory : σ) (heard : τ) :
    Except WorkflowError ExecutionState × σ × τ :=
  let (result, memory, heard) := tellNodes worker listener chain.nodes initial memory heard
  (result, memory, listener.tell (lastEvent result) heard)

/-- A run with what a listener hears of it, who is there or has gone away before. -/
def Chain.watch (chain : Chain) (worker : Worker σ) (listening : Bool)
    (initial : ExecutionState) (memory : σ) :
    List RunEvent × Except WorkflowError ExecutionState × σ :=
  let listener := if listening then .attentive else .absent
  let (result, memory, heard) := chain.tell worker listener initial memory []
  (heard, result, memory)

end AgentFlow
