import AgentFlow.Proofs.Chain.Run
import Mathlib.Data.List.Forall2

/-!
# What a run asks a chat model

A chain whose steps are performed by a chat model asks it once for each step, until an answer is a
failure. Each request holds the whole conversation so far: the messages that were there initially,
and the replies to the earlier requests, under the names of the agents that they were made for.
-/

namespace AgentFlow

variable {σ : Type}

namespace Chat

/-- What a model was asked, and its answer. -/
structure Exchange where
  request : Request
  answer : Except Failure String

/-- A model that does what the given one does and keeps a log of its exchanges, the latest last. -/
def Model.logged (model : Model σ) : Model (σ × List Exchange) where
  reply request memory :=
    let (answer, after) := model.reply request memory.1
    (answer, after, memory.2 ++ [⟨request, answer⟩])

end Chat

/-- A turn puts a message to a model. Whoever is neither assistant nor system is a user, and the
name of the one who speaks is told of the assistant only, if there is one. -/
structure PutAs (m : Message) (turn : Chat.Turn) : Prop where
  role : turn.role =
    if m.role = "assistant" then .assistant else if m.role = "system" then .system else .user
  named : ∀ name, m.role = "assistant" → m.name = some name →
    turn.content = "[" ++ name ++ "] " ++ m.content
  plain : m.role ≠ "assistant" ∨ m.name = none → turn.content = m.content

/-- The reply that a step has got, as a turn of the conversations for later steps. -/
def Performance.turn (p : Performance) : Chat.Turn :=
  ⟨.assistant, "[" ++ p.node.agent.name ++ "] " ++ p.output⟩

/-- What a model is asked for a step: by the name that the agent gives, with the agent's system
prompt if there is one, the conversation before the run, the replies to the earlier steps and the
instruction of this one. -/
def requestAfter (config : Option Chat.GenerationConfig) (context : List Chat.Turn)
    (earlier : List Performance) (node : Node) : Chat.Request where
  model := node.agent.model
  turns := (if node.agent.systemPrompt = "" then [] else [⟨.system, node.agent.systemPrompt⟩]) ++
    context ++ earlier.map (·.turn) ++ [⟨.user, node.instruction⟩]
  config := config

/-- The exchanges for steps that succeed: each request tells the replies to the ones before it. -/
def exchangesFor (config : Option Chat.GenerationConfig) (context : List Chat.Turn)
    (performed : List Performance) : List Chat.Exchange :=
  performed.mapIdx fun k p =>
    ⟨requestAfter config context (performed.take k) p.node, .ok p.output⟩

/-- The turn of a message puts it to a model. -/
theorem putAs_turnOf (m : Message) : PutAs m (Worker.turnOf m) := by
  unfold Worker.turnOf
  by_cases hassistant : m.role = "assistant"
  · rw [if_pos hassistant]
    refine ⟨by rw [if_pos hassistant], fun name _ hname => ?_, fun hplain => ?_⟩
    · rw [hname]
      rfl
    · rw [hplain.resolve_left (not_not_intro hassistant)]
  · rw [if_neg hassistant]
    by_cases hsystem : m.role = "system"
    · rw [if_pos hsystem]
      exact ⟨by rw [if_neg hassistant, if_pos hsystem], fun _ h _ => absurd h hassistant,
        fun _ => rfl⟩
    · rw [if_neg hsystem]
      exact ⟨by rw [if_neg hassistant, if_neg hsystem], fun _ h _ => absurd h hassistant,
        fun _ => rfl⟩

/-- The messages before a run are put to a model one by one. -/
theorem forall₂_putAs (messages : List Message) :
    List.Forall₂ PutAs messages (messages.map Worker.turnOf) := by
  rw [List.forall₂_map_right_iff, List.forall₂_same]
  exact fun m _ => putAs_turnOf m

/-- What is asked for a step, after the steps before it have succeeded. -/
theorem requestFor_applyAll (config : Option Chat.GenerationConfig) (initial : ExecutionState)
    (earlier : List Performance) (node : Node) :
    Worker.requestFor config
        ⟨node.agent, node.instruction, initial.applyAll (earlier.map (·.update))⟩ =
      requestAfter config (initial.messages.map Worker.turnOf) earlier node := by
  have hturns : (initial.applyAll (earlier.map (·.update))).messages.map Worker.turnOf =
      initial.messages.map Worker.turnOf ++ earlier.map (·.turn) := by
    rw [messages_of_performed, List.map_append, List.map_map]
    rfl
  simp only [Worker.requestFor, Worker.conversation, hturns, requestAfter, String.isEmpty_iff,
    List.append_assoc]

/-- A step succeeds with what the model replies. -/
theorem Worker.perform_ofModel_eq_ok_iff {model : Chat.Model σ}
    {config : Option Chat.GenerationConfig} {assignment : Assignment} {before after : σ}
    {output : String} :
    (ofModel model config).perform assignment before = (.ok output, after) ↔
      model.reply (requestFor config assignment) before = (.ok output, after) := by
  simp only [ofModel, Prod.ext_iff]
  cases (model.reply (requestFor config assignment) before).1 <;> simp [Except.mapError]

/-- A step fails with the wording of the model's failure. -/
theorem Worker.perform_ofModel_eq_error_iff {model : Chat.Model σ}
    {config : Option Chat.GenerationConfig} {assignment : Assignment} {before after : σ}
    {reason : String} :
    (ofModel model config).perform assignment before = (.error reason, after) ↔
      ∃ failure, model.reply (requestFor config assignment) before = (.error failure, after) ∧
        reason = failure.message := by
  simp only [ofModel, Prod.ext_iff]
  cases (model.reply (requestFor config assignment) before).1 <;>
    simp [Except.mapError, eq_comm, and_comm]

/-- The log of a model grows by one exchange with each request. -/
theorem Chat.Model.reply_logged {model : Chat.Model σ} {request : Chat.Request} {before after : σ}
    {answer : Except Chat.Failure String} (h : model.reply request before = (answer, after))
    (log : List Chat.Exchange) :
    model.logged.reply request (before, log) = (answer, after, log ++ [⟨request, answer⟩]) := by
  simp only [logged, h]

/-- The log of a model grows by the exchanges for the steps that succeed. -/
theorem Succeed.exchanges {model : Chat.Model σ} {config : Option Chat.GenerationConfig}
    {performed : List Performance} {state : ExecutionState} {before after : σ}
    (h : Succeed (.ofModel model config) performed state before after) (log : List Chat.Exchange) :
    Succeed (.ofModel model.logged config) performed state (before, log)
      (after, log ++ performed.mapIdx fun k p =>
        ⟨Worker.requestFor config ⟨p.node.agent, p.node.instruction,
          state.applyAll ((performed.take k).map (·.update))⟩, .ok p.output⟩) := by
  induction h generalizing log with
  | nil => simpa using Succeed.nil
  | @cons p rest state m₁ m₂ m₃ hcall _ ih =>
    have hreply := Worker.perform_ofModel_eq_ok_iff.mp hcall
    have hlogged := Worker.perform_ofModel_eq_ok_iff.mpr
      (Chat.Model.reply_logged hreply log)
    have hrest := ih (log ++ [⟨Worker.requestFor config ⟨p.node.agent, p.node.instruction, state⟩,
      .ok p.output⟩])
    rw [List.append_assoc, List.singleton_append] at hrest
    rw [List.mapIdx_cons]
    simp only [List.take_zero, List.take_succ_cons, List.map_nil, List.map_cons,
      ExecutionState.applyAll_nil, ExecutionState.applyAll_cons]
    exact .cons hlogged hrest

/-- The exchanges for steps that succeed from the initial state on. -/
theorem Succeed.exchangesFor {model : Chat.Model σ} {config : Option Chat.GenerationConfig}
    {initial : ExecutionState} {performed : List Performance} {before after : σ}
    (h : Succeed (.ofModel model config) performed initial before after) :
    Succeed (.ofModel model.logged config) performed initial (before, [])
      (after, exchangesFor config (initial.messages.map Worker.turnOf) performed) := by
  have hlogged := h.exchanges []
  simp only [requestFor_applyAll, List.nil_append] at hlogged
  exact hlogged

/-- **Asking a model.** The messages before a run are put to the model one by one. Either every step
of the chain gets a reply, and the model has been asked once for each of them, in the order of the
chain: the request for the `k`-th step tells the replies to the `k` steps before it. Or there is a
first step for which the model fails; then the run ends with that failure, and the request for this
step, which tells the replies to all steps before it, was the last one. -/
theorem Chain.run_exchanges (chain : Chain) (model : Chat.Model σ)
    (config : Option Chat.GenerationConfig) (initial : ExecutionState) (memory : σ) :
    ∃ context, List.Forall₂ PutAs initial.messages context ∧
      ((∃ performed state after, performed.map (·.node) = chain.nodes ∧
        chain.run (.ofModel model config) initial memory = (.ok state, after) ∧
        chain.run (.ofModel model.logged config) initial (memory, []) =
          (.ok state, after, exchangesFor config context performed)) ∨
      (∃ performed node rest failure after, chain.nodes = performed.map (·.node) ++ node :: rest ∧
        chain.run (.ofModel model config) initial memory =
          (.error (.stepFailed node.id failure.message), after) ∧
        chain.run (.ofModel model.logged config) initial (memory, []) =
          (.error (.stepFailed node.id failure.message), after,
            exchangesFor config context performed ++
              [⟨requestAfter config context performed node, .error failure⟩]))) := by
  refine ⟨_, forall₂_putAs initial.messages, ?_⟩
  rcases succeed_or_fail (.ofModel model config) chain.nodes initial memory with
    ⟨performed, after, hnodes, h⟩ | ⟨performed, node, rest, reason, before, after, hnodes, h, hfail⟩
  · left
    exact ⟨performed, _, after, hnodes, Chain.run_of_succeed hnodes h,
      Chain.run_of_succeed hnodes h.exchangesFor⟩
  · right
    obtain ⟨failure, hreply, rfl⟩ := Worker.perform_ofModel_eq_error_iff.mp hfail
    have hlogged := Worker.perform_ofModel_eq_error_iff.mpr ⟨failure,
      Chat.Model.reply_logged hreply
        (exchangesFor config (initial.messages.map Worker.turnOf) performed), rfl⟩
    have hrun := Chain.run_of_fail hnodes h.exchangesFor hlogged
    rw [requestFor_applyAll] at hrun
    exact ⟨performed, node, rest, failure, after, hnodes, Chain.run_of_fail hnodes h hfail, hrun⟩

end AgentFlow
