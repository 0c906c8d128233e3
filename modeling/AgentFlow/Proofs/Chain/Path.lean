import AgentFlow.Proofs.Chain.Assembly
import AgentFlow.Proofs.Compile
import Mathlib.Data.List.TakeWhile

/-!
# The way along the edges of a chain

Whoever follows the edges of a chain from its entry comes to each step once, in the order of the
chain, and then to the terminal. The terminal goes by a name, however, and a step may have it as its
id: the way is over as soon as it comes to such a step. No step of a compiled workflow has that id.
-/

namespace AgentFlow

namespace Chain

/-- A way along edges from an id on, told by the ids that it leaves. It is over when it comes to the
terminal. -/
inductive Way (edges : List (String × String)) : String → List String → Prop
  | ended : Way edges terminal []
  | along {id next : String} {visited : List String} : id ≠ terminal → (id, next) ∈ edges →
      Way edges next visited → Way edges id (id :: visited)

/-- The edges of a chain lead from its entry through its steps to the terminal. -/
structure LeadsThrough (chain : Chain) : Prop where
  /-- The entry is the first step. -/
  entry : chain.nodeIds.head? = some chain.entry
  /-- From the entry there is one way, which comes to the steps in their order. -/
  way (visited : List String) : Way chain.edges chain.entry visited ↔ visited = chain.nodeIds
  /-- A single edge leads to the terminal, and it comes from the last step. -/
  last : ∃ id, chain.nodeIds.getLast? = some id ∧
    chain.edges.filter (·.2 = terminal) = [(id, terminal)]

/-- The edge from the first id leads to the next one, or to the terminal if there is none. -/
theorem edgesFrom_cons (id : String) (rest : List String) :
    edgesFrom (id :: rest) = (id, rest.headD terminal) :: edgesFrom rest := by
  cases rest <;> rfl

/-- The edges are those from each id to what comes after it. -/
theorem mem_edgesFrom_iff {id next : String} {ids : List String} :
    (id, next) ∈ edgesFrom ids ↔
      ∃ before rest, ids = before ++ id :: rest ∧ next = rest.headD terminal := by
  induction ids with
  | nil => simp [edgesFrom]
  | cons first more ih =>
    rw [edgesFrom_cons, List.mem_cons, Prod.mk.injEq, ih]
    constructor
    · rintro (⟨rfl, hnext⟩ | ⟨before, rest, rfl, hnext⟩)
      · exact ⟨[], more, rfl, hnext⟩
      · exact ⟨first :: before, rest, rfl, hnext⟩
    · rintro ⟨before, rest, hids, hnext⟩
      cases before with
      | nil =>
        obtain ⟨rfl, rfl⟩ := List.cons.inj hids
        exact .inl ⟨rfl, hnext⟩
      | cons _ before =>
        obtain ⟨rfl, rfl⟩ := List.cons.inj hids
        exact .inr ⟨before, rest, rfl, hnext⟩

/-- If ids do not repeat, one edge leads away from each of them. -/
theorem mem_edgesFrom_iff_of_nodup {id next : String} {before rest : List String}
    (h : (before ++ id :: rest).Nodup) :
    (id, next) ∈ edgesFrom (before ++ id :: rest) ↔ next = rest.headD terminal := by
  have honce : id ∉ before ∧ id ∉ rest := by grind
  rw [mem_edgesFrom_iff]
  constructor
  · rintro ⟨before', rest', hsplit, rfl⟩
    obtain ⟨_, _, rfl⟩ := (List.append_cons_inj_of_notMem honce.1 honce.2).mp hsplit
    rfl
  · intro hnext
    exact ⟨before, rest, rfl, hnext⟩

/-- At the terminal the way is over. -/
theorem way_terminal_iff {edges : List (String × String)} {visited : List String} :
    Way edges terminal visited ↔ visited = [] := by
  constructor
  · intro h
    cases h with
    | ended => rfl
    | along hid => exact absurd rfl hid
  · rintro rfl
    exact .ended

/-- A way never leaves the terminal. -/
theorem Way.terminal_notMem {edges : List (String × String)} {id : String} {visited : List String}
    (h : Way edges id visited) : terminal ∉ visited := by
  induction h with
  | ended => exact List.not_mem_nil
  | along hid _ _ ih =>
    rw [List.mem_cons, not_or]
    exact ⟨hid.symm, ih⟩

/-- If ids do not repeat, the way from one of them on comes to those that follow, up to the first
one that is the name of the terminal. -/
theorem way_edgesFrom_iff (before rest visited : List String) (h : (before ++ rest).Nodup) :
    Way (edgesFrom (before ++ rest)) (rest.headD terminal) visited ↔
      visited = rest.takeWhile (· ≠ terminal) := by
  induction rest generalizing before visited with
  | nil => exact way_terminal_iff
  | cons id rest ih =>
    rw [List.headD_cons]
    by_cases hid : id = terminal
    · subst hid
      rw [way_terminal_iff, List.takeWhile_cons_of_neg (by simp)]
    · have hmove : before ++ id :: rest = before ++ [id] ++ rest := by simp
      rw [List.takeWhile_cons_of_pos (by simpa using hid)]
      constructor
      · intro hway
        cases hway with
        | ended => exact absurd rfl hid
        | along _ hedge hrest =>
          rw [mem_edgesFrom_iff_of_nodup h] at hedge
          subst hedge
          rw [hmove] at h hrest
          rw [(ih _ _ h).mp hrest]
      · rintro rfl
        refine .along hid ((mem_edgesFrom_iff_of_nodup h).mpr rfl) ?_
        rw [hmove] at h ⊢
        exact (ih _ _ h).mpr rfl

/-- If no id but the first may be the name of the terminal, the edge from the last one is the only
edge that leads there. -/
theorem filter_edgesFrom (id : String) {rest : List String} (h : terminal ∉ rest) :
    ∃ last, (id :: rest).getLast? = some last ∧
      (edgesFrom (id :: rest)).filter (·.2 = terminal) = [(last, terminal)] := by
  induction rest generalizing id with
  | nil => exact ⟨id, rfl, by simp [edgesFrom]⟩
  | cons next rest ih =>
    rw [List.mem_cons, not_or] at h
    obtain ⟨last, hlast, hedges⟩ := ih next h.2
    refine ⟨last, by rw [List.getLast?_cons_cons, hlast], ?_⟩
    rw [edgesFrom_cons, List.headD_cons, List.filter_cons_of_neg (by simpa using Ne.symm h.1),
      hedges]

/-- One edge leads to the terminal, and one more to each id after the first that is its name. -/
theorem length_filter_edgesFrom (id : String) (rest : List String) :
    ((edgesFrom (id :: rest)).filter (·.2 = terminal)).length = rest.count terminal + 1 := by
  induction rest generalizing id with
  | nil => simp [edgesFrom]
  | cons next rest ih =>
    rw [edgesFrom_cons, List.headD_cons, List.filter_cons, List.count_cons]
    by_cases hnext : next = terminal <;> simp [hnext, ih]

/-- The ids of a chain begin with its entry. -/
theorem exists_nodeIds_eq_cons (chain : Chain) : ∃ rest, chain.nodeIds = chain.entry :: rest := by
  refine ⟨(chain.nodes.tail).map Node.id, ?_⟩
  rw [nodeIds, entry, ← List.map_cons, List.cons_head_tail]

/-- The entry of a chain is its first step. -/
theorem head?_nodeIds (chain : Chain) : chain.nodeIds.head? = some chain.entry := by
  obtain ⟨rest, hids⟩ := chain.exists_nodeIds_eq_cons
  rw [hids, List.head?_cons]

/-- The way from the entry on comes to the steps in their order, up to the first one whose id is the
name of the terminal. -/
theorem way_iff (chain : Chain) (visited : List String) :
    Way chain.edges chain.entry visited ↔ visited = chain.nodeIds.takeWhile (· ≠ terminal) := by
  obtain ⟨rest, hids⟩ := chain.exists_nodeIds_eq_cons
  have hway := way_edgesFrom_iff [] chain.nodeIds visited chain.distinct
  rwa [List.nil_append, ← edges, hids, List.headD_cons, ← hids] at hway

/-- The edge from the last step is the only one to the terminal exactly if no id but the first may
be the name of the terminal. -/
theorem filter_edges_iff (chain : Chain) :
    (∃ id, chain.nodeIds.getLast? = some id ∧
      chain.edges.filter (·.2 = terminal) = [(id, terminal)]) ↔
      terminal ∉ chain.nodeIds.tail := by
  obtain ⟨rest, hids⟩ := chain.exists_nodeIds_eq_cons
  rw [edges, hids, List.tail_cons]
  constructor
  · rintro ⟨id, _, hedges⟩
    have hcount := length_filter_edgesFrom chain.entry rest
    rw [hedges, List.length_singleton] at hcount
    rw [← List.count_eq_zero]
    omega
  · exact filter_edgesFrom chain.entry

/-- The edges of a chain lead through it exactly if none of its ids is the name of the terminal. -/
theorem leadsThrough_iff {chain : Chain} : chain.LeadsThrough ↔ terminal ∉ chain.nodeIds := by
  constructor
  · intro h
    exact ((h.way chain.nodeIds).mpr rfl).terminal_notMem
  · intro hterminal
    have hall : chain.nodeIds.takeWhile (· ≠ terminal) = chain.nodeIds := by
      rw [List.takeWhile_eq_self_iff]
      intro id hid
      rw [decide_eq_true_eq]
      rintro rfl
      exact hterminal hid
    refine ⟨chain.head?_nodeIds, fun visited => by rw [way_iff, hall], ?_⟩
    exact chain.filter_edges_iff.mpr fun hmem => hterminal (List.mem_of_mem_tail hmem)

end Chain

/-- The edges of every compiled workflow lead through its chain. -/
theorem Workflow.leadsThrough_of_compile {workflow : Workflow} {roster : Roster} {chain : Chain}
    (h : workflow.compile roster = .ok chain) : chain.LeadsThrough := by
  rw [Chain.leadsThrough_iff, Chain.nodeIds, List.mem_map]
  rintro ⟨node, hnode, hid⟩
  obtain ⟨tasks, _, hmade⟩ := nodes_of_compile h
  rw [hmade] at hnode
  obtain ⟨_, _, _, _, _, _, _, rfl⟩ := (stepsOf_nodesFrom roster tasks).exists_isStepFor hnode
  exact Node.idAt_ne_terminal _ _ hid

namespace Chain

/-- **Chains and their edges.** Steps are joined to a chain exactly if there is one and their ids
differ from each other. Without steps the refusal tells the name given, and otherwise the id of the
earliest step whose id occurs before it. The chain is made of the steps as they stand and is entered
at the first one. From there the edges lead through the steps in their order, up to the first one
whose id is the name of the terminal, and only if a step after the first one has that id there is
more than one edge to the terminal. So they lead through the whole chain and then to the terminal,
unless a step has the name of the terminal as its id. -/
theorem assemble_leadsThrough (name : String) (nodes : List Node) :
    ((∃ chain, assemble name nodes = .ok chain) ↔ nodes ≠ [] ∧ (nodes.map Node.id).Nodup) ∧
    (assemble name nodes = .error (.emptyChain name) ↔ nodes = []) ∧
    (∀ id, assemble name nodes = .error (.duplicateNode id) ↔
      ∃ before node rest, nodes = before ++ node :: rest ∧ node.id = id ∧
        (before.map Node.id).Nodup ∧ id ∈ before.map Node.id) ∧
    (nodes ≠ [] → ¬ (nodes.map Node.id).Nodup →
      ∃ id, assemble name nodes = .error (.duplicateNode id)) ∧
    ∀ chain, assemble name nodes = .ok chain → chain.name = name ∧ chain.nodes = nodes ∧
      chain.nodeIds.Nodup ∧ chain.nodeIds.head? = some chain.entry ∧
      (∀ visited, Way chain.edges chain.entry visited ↔
        visited = chain.nodeIds.takeWhile (· ≠ terminal)) ∧
      ((∃ id, chain.nodeIds.getLast? = some id ∧
        chain.edges.filter (·.2 = terminal) = [(id, terminal)]) ↔
        terminal ∉ chain.nodeIds.tail) ∧
      (chain.LeadsThrough ↔ terminal ∉ chain.nodeIds) := by
  refine ⟨exists_assemble_iff, assemble_eq_emptyChain_iff,
    fun _ => assemble_eq_duplicateNode_iff, fun hnodes hrepeat => ?_, fun chain hok => ?_⟩
  · rcases assemble_cases name nodes with ⟨hnone, _⟩ | ⟨id, _, hrefused⟩ | ⟨_, hids, _⟩
    · exact absurd hnone hnodes
    · exact ⟨id, hrefused⟩
    · exact absurd hids hrepeat
  · obtain ⟨hname, hnodes⟩ := eq_of_assemble hok
    exact ⟨hname, hnodes, chain.distinct, chain.head?_nodeIds, chain.way_iff,
      chain.filter_edges_iff, leadsThrough_iff⟩

/-- Two steps, of which the second one has the given id. -/
def pairOfNodes (id : String) : List Node :=
  let ann : Agent := .ofDraft 1 ⟨"Ann", none, defaultModel, ""⟩ ⟨⟨2024, 1, 1⟩, 0, 0, 0⟩
  [⟨"step_1_Ann", ann, "Ask"⟩, ⟨id, ann, "Sum up"⟩]

/-- Two steps with ids of their own are joined, and the edges lead through them; with one id they
are refused. -/
theorem assemble_leadsThrough_pair :
    (∃ chain, assemble "Survey" (pairOfNodes "step_2_Ann") = .ok chain ∧ chain.LeadsThrough) ∧
    assemble "Survey" (pairOfNodes "step_1_Ann") = .error (.duplicateNode "step_1_Ann") := by
  obtain ⟨hjoined, _, _, _, hchain⟩ := assemble_leadsThrough "Survey" (pairOfNodes "step_2_Ann")
  obtain ⟨_, _, hrefused, _, _⟩ := assemble_leadsThrough "Survey" (pairOfNodes "step_1_Ann")
  obtain ⟨chain, hok⟩ := hjoined.mpr ⟨by simp [pairOfNodes], by simp [pairOfNodes]⟩
  obtain ⟨_, hnodes, _, _, _, _, hleads⟩ := hchain chain hok
  refine ⟨⟨chain, hok, hleads.mpr ?_⟩, (hrefused "step_1_Ann").mpr ?_⟩
  · rw [nodeIds, hnodes]
    simp [pairOfNodes, terminal]
  · exact ⟨[_], _, [], rfl, rfl, by simp, List.mem_singleton_self _⟩

/-- The edges do not lead through every chain: a step whose id is the name of the terminal is
reached by an edge as the terminal is. -/
theorem exists_assemble_not_leadsThrough :
    ¬ ∀ (name : String) (nodes : List Node) (chain : Chain),
      assemble name nodes = .ok chain → chain.LeadsThrough := by
  intro h
  have hjoined : ∃ chain, assemble "Survey" (pairOfNodes "__end__") = .ok chain :=
    exists_assemble_iff.mpr ⟨by simp [pairOfNodes], by simp [pairOfNodes]⟩
  obtain ⟨chain, hok⟩ := hjoined
  obtain ⟨_, hlast, hedges⟩ := (h _ _ chain hok).last
  rw [edges, nodeIds, (eq_of_assemble hok).2] at hedges
  simp [pairOfNodes, edgesFrom, terminal] at hedges

end Chain

end AgentFlow
