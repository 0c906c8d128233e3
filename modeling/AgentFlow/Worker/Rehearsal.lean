import AgentFlow.Worker

/-!
# Workers for rehearsals

Workers that need nothing outside of the program: one that tells what it saw, one that fails on
request, and a chat model whose answers are laid down beforehand and that remembers what it was
asked.
-/

namespace AgentFlow

namespace Worker

variable {σ : Type}

/-- Tells what it saw of the state. -/
def counting : Worker σ :=
  stateless "counting" fun a =>
    let messages := a.state.messages.length
    let results := a.state.results.size
    .ok s!"saw {messages} messages, {results} results, after {a.state.currentAgent}"

/-- Whether a text occurs in another one. -/
def occursIn (part : List Char) : List Char → Bool
  | [] => part.isEmpty
  | c :: rest => part.isPrefixOf (c :: rest) || occursIn part rest

/-- Repeats the instruction, but fails if a text occurs in it. -/
def flaky (trigger : String) : Worker σ :=
  stateless "flaky" fun a =>
    if occursIn trigger.toList a.instruction.toList then .error s!"{a.agent.name} exploded"
    else .ok a.instruction

end Worker

namespace Chat

/-- The requests that a model was asked, from the first to the last. -/
abbrev Transcript := List Request

/-- A model whose answers are laid down. After the last of them it tells the number of the request,
counted from one. -/
def Model.scripted (answers : List (Except Failure String)) : Model Transcript :=
  ⟨fun request asked =>
    (answers[asked.length]?.getD (.ok s!"reply {asked.length + 1}"), asked ++ [request])⟩

end Chat

end AgentFlow
