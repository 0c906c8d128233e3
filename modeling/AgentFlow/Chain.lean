import AgentFlow.Agent
import AgentFlow.Text.Blank
import AgentFlow.Text.CharClass
import AgentFlow.WorkflowError

/-!
# Chains

A compiled workflow: steps that are run one after another, each under an id of its own.
-/

namespace AgentFlow

/-- One step of a chain. -/
structure Node where
  id : String
  agent : Agent
  instruction : String
deriving DecidableEq, Repr

namespace Node

/-- An agent's name as part of an id: blanks become underscores. -/
def slug (name : String) : List Char :=
  name.toList.map fun c => if Text.isBlank c then '_' else c

/-- The id of the step for the task at a position, counted from zero. -/
def idAt (position : Nat) (agentName : String) : String :=
  String.ofList ("step_".toList ++ Nat.toDigits 10 (position + 1) ++ '_' :: slug agentName)

/-- A description of the step for people, with the name of the worker that will perform it. -/
def description (node : Node) (worker : String) : String :=
  "StepNode \x7b id: " ++ Text.quoted node.id ++ ", agent: " ++ Text.quoted node.agent.name ++
    ", instruction: " ++ Text.quoted node.instruction ++ ", worker: " ++ Text.quoted worker ++
    " \x7d"

end Node

/-- Steps in the order they are run in: at least one, and no two with one id. -/
structure Chain where
  name : String
  nodes : List Node
  nonempty : nodes ≠ []
  distinct : (nodes.map Node.id).Nodup

/-- The first entry that occurs before in the list, or among those seen already. -/
def firstRepeated (seen : List String) : List String → Option String
  | [] => none
  | id :: rest => if seen.contains id then some id else firstRepeated (id :: seen) rest

theorem nodup_of_firstRepeated {seen ids : List String} (h : firstRepeated seen ids = none) :
    ids.Nodup ∧ ∀ id ∈ ids, id ∉ seen := by
  induction ids generalizing seen with
  | nil => simp
  | cons id rest ih =>
    rw [firstRepeated] at h
    split at h
    · simp at h
    · rename_i hnew
      obtain ⟨hrest, hfresh⟩ := ih h
      refine ⟨List.nodup_cons.mpr ⟨fun hmem => ?_, hrest⟩, fun x hx => ?_⟩
      · exact hfresh id hmem (by simp)
      · cases List.mem_cons.mp hx with
        | inl heq => subst heq; simpa using hnew
        | inr hmem => exact fun hseen => hfresh x hmem (List.mem_cons_of_mem _ hseen)

namespace Chain

/-- Where the last edge of a chain leads. -/
def terminal : String := "__end__"

/-- Joins steps to a chain. There must be one, and the first id that comes twice is refused. -/
def assemble (name : String) (nodes : List Node) : Except WorkflowError Chain :=
  if hempty : nodes = [] then .error (.emptyChain name)
  else match hrepeated : firstRepeated [] (nodes.map Node.id) with
    | some id => .error (.duplicateNode id)
    | none => .ok ⟨name, nodes, hempty, (nodup_of_firstRepeated hrepeated).1⟩

/-- The ids of the steps in their order. -/
def nodeIds (chain : Chain) : List String := chain.nodes.map Node.id

/-- The number of steps. -/
def length (chain : Chain) : Nat := chain.nodes.length

/-- The id of the first step. -/
def entry (chain : Chain) : String := (chain.nodes.head chain.nonempty).id

/-- An edge from each id to the next, and one from the last to the terminal. -/
def edgesFrom : List String → List (String × String)
  | [] => []
  | [id] => [(id, terminal)]
  | id :: next :: rest => (id, next) :: edgesFrom (next :: rest)

/-- The edges of the chain. -/
def edges (chain : Chain) : List (String × String) := edgesFrom chain.nodeIds

end Chain

end AgentFlow
