import AgentFlow.CommandLine.Program
import AgentFlow.Proofs.Chain.Run
import AgentFlow.Proofs.CommandLine.Arguments
import AgentFlow.Proofs.Store.Seeds

/-!
# Validated catalogs

What is found out of a catalog by compiling it holds when it is run: if every workflow that is
listed compiles, each one that is found under an id runs to its end, and what is written of the run
has a message for each of the steps it was compiled to.
-/

namespace AgentFlow

variable {σ : Type}

/-- What is told of a step by the worker that does nothing else. -/
def Node.announcement (node : Node) : Performance :=
  ⟨node, s!"Processed '{node.instruction}' by {node.agent.name}"⟩

/-- Steps that are only told of all succeed. -/
theorem succeed_placeholder (nodes : List Node) (state : ExecutionState) (memory : σ) :
    Succeed .placeholder (nodes.map Node.announcement) state memory memory := by
  induction nodes generalizing state with
  | nil => exact .nil
  | cons node rest ih => exact .cons rfl (ih _)

/-- A run that is only told of ends with a message for each step, in the order of the steps. -/
theorem Chain.run_placeholder (chain : Chain) (initial : ExecutionState) (memory : σ) :
    ∃ state, chain.run .placeholder initial memory = (.ok state, memory) ∧
      state.messages =
        initial.messages ++ chain.nodes.map fun node => node.announcement.message := by
  have hnodes : (chain.nodes.map Node.announcement).map (·.node) = chain.nodes := by
    rw [List.map_map]
    exact List.map_id chain.nodes
  refine ⟨_, Chain.run_of_succeed hnodes (succeed_placeholder _ initial memory), ?_⟩
  rw [messages_of_performed, List.map_map]
  rfl

/-- Steps that are the same but for times are told of alike. -/
theorem Node.SameButTimes.message_eq {node other : Node} (h : node.SameButTimes other) :
    other.announcement.message = node.announcement.message := by
  simp only [announcement, Performance.message, h.instruction, h.agent.name_eq]

/-- What is told of steps that are the same but for times is the same. -/
theorem messages_of_sameButTimes {nodes others : List Node}
    (h : List.Forall₂ Node.SameButTimes nodes others) :
    others.map (fun node => node.announcement.message) =
      nodes.map fun node => node.announcement.message := by
  induction h with
  | nil => rfl
  | cons hnode _ ih => rw [List.map_cons, List.map_cons, hnode.message_eq, ih]

namespace CommandLine

open Number

/-- The exit code of a program that ends. -/
def Outcome.exitCode? : Outcome σ → Option Nat
  | .ended code _ _ => some code
  | .serving _ => none

/-- A catalog is compiled against its own agents, of which the last one of each id counts. -/
theorem validate_eq (catalog : Catalog) :
    let compiled := fun workflow : Workflow => workflow.compile (.ofAgents catalog.agents)
    let failures := catalog.workflows.countP fun workflow => !(compiled workflow).isOk
    let output := String.join (catalog.workflows.map fun workflow =>
      compileLine workflow (compiled workflow))
    (validate catalog : Outcome σ) =
      if failures = 0 then .ended 0 output ""
      else .ended 1 output
        s!"Error: {failures} of {catalog.workflows.length} workflows failed to compile\n" := by
  intro compiled failures output
  simp only [validate, Store.roster_seed, List.map_map, List.countP_map, List.length_map]
  rfl

/-- A catalog is compiled with success if nothing of it fails. -/
theorem exitCode?_validate_eq_zero_iff (catalog : Catalog) :
    (validate catalog : Outcome σ).exitCode? = some 0 ↔
      catalog.workflows.countP
        (fun workflow => !(workflow.compile (.ofAgents catalog.agents)).isOk) = 0 := by
  rw [validate_eq]
  dsimp only
  split
  next hzero => exact iff_of_true rfl hzero
  next hzero => exact iff_of_false nofun hzero

/-- There are no failures if everything compiles. -/
theorem countP_not_isOk_eq_zero_iff {ε α β : Type} {f : α → Except ε β} {xs : List α} :
    xs.countP (fun x => !(f x).isOk) = 0 ↔ ∀ x ∈ xs, ∃ y, f x = .ok y := by
  rw [List.countP_eq_zero]
  refine forall₂_congr fun x _ => ?_
  cases f x <;> simp [Except.isOk, Except.toBool]

/-- A catalog that a program loads is loaded by every other program from the same files, as the same
catalog but for times. -/
theorem Surroundings.catalog_later {s other : Surroundings} (hfile : other.file = s.file)
    {path : String} {catalog : Catalog} (hcatalog : s.catalog path = .ok catalog) :
    ∃ catalog', other.catalog path = .ok catalog' ∧ catalog.SameButTimes catalog' := by
  rw [Surroundings.catalog] at hcatalog
  cases hload : Catalog.load s.now (s.file path) with
  | error e =>
    rw [hload] at hcatalog
    cases hcatalog
  | ok loaded =>
    rw [hload] at hcatalog
    cases hcatalog
    obtain ⟨catalog', hload', hsame⟩ := Catalog.load_later hload other.now
    exact ⟨catalog', by rw [Surroundings.catalog, hfile, hload']; rfl, hsame⟩

section Launch

variable (s : Surroundings) (transport : Chat.Transport σ) (memory : σ) {settings : Settings}
  {path : String} {catalog : Catalog}

/-- Compiling a catalog that loads. -/
theorem launch_validate (hsettings : s.settings = .ok settings) (hpath : path ≠ "")
    (hcatalog : s.catalog path = .ok catalog) :
    launch s transport memory (validateArguments path) = validate catalog := by
  simp only [launch, ofArguments_validate hpath, hsettings, Command.perform, hcatalog]

/-- Running a workflow of a catalog that loads, when it compiles. -/
theorem launch_run (hsettings : s.settings = .ok settings) (hpath : path ≠ "")
    (hcatalog : s.catalog path = .ok catalog) {id : Int}
    (hid : IntRange.int64.contains id = true) {workflow : Workflow}
    (hfound : catalog.workflows.reverse.find? (·.id = id) = some workflow) {chain : Chain}
    (hcompile : workflow.compile (.ofAgents catalog.agents) = .ok chain) (input : Option String) :
    ∃ results, launch s transport memory (runArguments path id input) =
      .ended 0 ((RunOutcome.codec.write ⟨results, (input.map (Message.anonymous "user")).toList ++
        chain.nodes.map fun node => node.announcement.message⟩).indentedText ++ "\n") "" := by
  obtain ⟨state, hrun, hmessages⟩ := chain.run_placeholder (opening input) memory
  have hworkflow : (Store.empty.seed catalog).workflow? id = some workflow :=
    (Store.workflow?_seed catalog id).trans hfound
  refine ⟨state.results, ?_⟩
  simp only [launch, ofArguments_run hpath hid, hsettings, Command.perform, hcatalog, runWorkflow,
    hworkflow, withArguments, Option.getD_some, Settings.stepWorker, Workflow.run,
    Store.roster_seed, hcompile, hrun]
  have houtcome : RunOutcome.ofState state = ⟨state.results,
      (input.map (Message.anonymous "user")).toList ++
        chain.nodes.map fun node => node.announcement.message⟩ := by
    rw [RunOutcome.ofState, hmessages]
    rfl
  rw [← houtcome]
  rfl

/-- Running a workflow of a catalog that has been loaded before, when it compiled then. -/
theorem launch_run_later {other : Surroundings} (hfile : other.file = s.file)
    (hsettings : other.settings = .ok settings) (hpath : path ≠ "")
    (hcatalog : s.catalog path = .ok catalog) {id : Int} {workflow : Workflow}
    (hfound : catalog.workflows.reverse.find? (·.id = id) = some workflow) {chain : Chain}
    (hcompile : workflow.compile (.ofAgents catalog.agents) = .ok chain) (input : Option String) :
    ∃ results, launch other transport memory (runArguments path id input) =
      .ended 0 ((RunOutcome.codec.write ⟨results, (input.map (Message.anonymous "user")).toList ++
        chain.nodes.map fun node => node.announcement.message⟩).indentedText ++ "\n") "" := by
  obtain ⟨catalog', hcatalog', hsame⟩ := Surroundings.catalog_later hfile hcatalog
  have hid : workflow.id = id := by simpa using List.find?_some hfound
  -- What is found under the id now is the same workflow but for times.
  have hrelated := find?_rel (p := fun workflow => decide (workflow.id = id))
    (q := fun workflow => decide (workflow.id = id)) (fun _ _ h => by rw [h.1.id_eq])
    (List.rel_reverse hsame.workflows)
  rw [hfound] at hrelated
  generalize hfound' : catalog'.workflows.reverse.find? (·.id = id) = found at hrelated
  cases hrelated with
  | @some _ workflow' h =>
    obtain ⟨chain', hcompile', hnodes⟩ :=
      Workflow.compile_sameButTimes hsame.agents h.1 hcompile
    rw [← messages_of_sameButTimes hnodes]
    exact launch_run other transport memory hsettings hpath hcatalog' (hid ▸ h.2) hfound' hcompile'
      input

end Launch

/-- **Validated catalogs.** The compilation of a catalog that loads succeeds if every workflow that
is listed compiles against the agents that are listed, of which the last one of each id counts; if
not, it fails and tells how many do not compile, and of how many. If it succeeds, then under every
id that a workflow is listed with, whenever and in whatever environment, the run succeeds of the
last one with that id: what is written has the message of the user, if there is one, and behind it
one message for each step that the workflow was compiled to, in their order. -/
theorem launch_validate_agrees_run (s : Surroundings) (transport : Chat.Transport σ) (memory : σ)
    {settings : Settings} (hsettings : s.settings = .ok settings) {path : String}
    (hpath : path ≠ "") {catalog : Catalog} (hcatalog : s.catalog path = .ok catalog) :
    let compiled := fun workflow : Workflow => workflow.compile (.ofAgents catalog.agents)
    let failures := catalog.workflows.countP fun workflow => !(compiled workflow).isOk
    let validated := launch s transport memory (validateArguments path)
    (validated.exitCode? = some 0 ↔
      ∀ workflow ∈ catalog.workflows, ∃ chain, compiled workflow = .ok chain) ∧
    (validated.exitCode? ≠ some 0 → ∃ output, validated = .ended 1 output
      s!"Error: {failures} of {catalog.workflows.length} workflows failed to compile\n") ∧
    (validated.exitCode? = some 0 → ∀ id ∈ catalog.workflows.map Workflow.id,
      ∃ earlier workflow later chain, catalog.workflows = earlier ++ workflow :: later ∧
        workflow.id = id ∧ id ∉ later.map Workflow.id ∧ compiled workflow = .ok chain ∧
        ∀ (other : Surroundings) (settings : Settings), other.file = s.file →
          other.settings = .ok settings → ∀ (transport : Chat.Transport σ) memory input,
            ∃ results, launch other transport memory (runArguments path id input) =
              .ended 0 ((RunOutcome.codec.write
                ⟨results, (input.map (Message.anonymous "user")).toList ++
                  chain.nodes.map fun node => node.announcement.message⟩).indentedText ++ "\n")
                "") := by
  intro compiled failures validated
  have hvalidated : validated = validate catalog :=
    launch_validate s transport memory hsettings hpath hcatalog
  have hcode : validated.exitCode? = some 0 ↔ failures = 0 := by
    rw [hvalidated]
    exact exitCode?_validate_eq_zero_iff catalog
  have hall : failures = 0 ↔
      ∀ workflow ∈ catalog.workflows, ∃ chain, compiled workflow = .ok chain :=
    countP_not_isOk_eq_zero_iff
  refine ⟨hcode.trans hall, fun hfails => ?_, fun hzero id hid => ?_⟩
  · rw [hvalidated, validate_eq]
    dsimp only
    rw [if_neg fun hzero => hfails (hcode.mpr hzero)]
    exact ⟨_, rfl⟩
  · obtain ⟨listed, hlisted, rfl⟩ := List.mem_map.mp hid
    obtain ⟨workflow, hfound⟩ : ∃ workflow,
        catalog.workflows.reverse.find? (·.id = listed.id) = some workflow := by
      rw [← Option.isSome_iff_exists, List.find?_isSome]
      exact ⟨listed, List.mem_reverse.mpr hlisted, by simp⟩
    obtain ⟨hworkflow, later, earlier, hsplit, hlater⟩ := List.find?_eq_some_iff_append.mp hfound
    have hsplit' : catalog.workflows = earlier.reverse ++ workflow :: later.reverse := by
      rw [← List.reverse_reverse catalog.workflows, hsplit]
      simp
    have hmem : workflow ∈ catalog.workflows := by simp [hsplit']
    obtain ⟨chain, hchain⟩ := hall.mp (hcode.mp hzero) workflow hmem
    refine ⟨earlier.reverse, workflow, later.reverse, chain, hsplit', by simpa using hworkflow, ?_,
      hchain, fun other settings hfile hsettings transport memory input => ?_⟩
    · rw [List.mem_map]
      rintro ⟨last, hlast, heq⟩
      simpa [heq] using hlater last (List.mem_reverse.mp hlast)
    · exact launch_run_later s transport memory hfile hsettings hpath hcatalog hfound hchain input

/-- A catalog with two agents under one id and two workflows under another, negative one. -/
def surveyCatalog : String :=
  "agents:\n- id: 1\n  name: Bob\n- id: 1\n  name: Ann\n" ++
  "workflows:\n- id: -1\n  name: Draft\n  tasks:\n  - agent_id: 1\n    instruction: Wait\n" ++
  "- id: -1\n  name: Survey\n  tasks:\n  - agent_id: 1\n    instruction: Ask\n"

/-- A program finds this catalog, and nothing else. -/
def survey : Surroundings where
  inherited := .empty
  file path := if path = "catalog.yaml" then .ok surveyCatalog.toUTF8 else .error noSuchFile
  now := ⟨⟨2024, 1, 1⟩, 0, 0, 0⟩

/-- The catalog of the survey loads, with its two workflows, and both compile. -/
theorem catalog_survey : ∃ catalog, survey.catalog "catalog.yaml" = .ok catalog ∧
    catalog.workflows.map Workflow.id = [-1, -1] ∧
    catalog.workflows.countP
      (fun workflow => !(workflow.compile (.ofAgents catalog.agents)).isOk) = 0 := by
  have hread : (survey.catalog "catalog.yaml").toOption.map
      (fun catalog => (catalog.workflows.map Workflow.id, catalog.workflows.countP fun workflow =>
        !(workflow.compile (.ofAgents catalog.agents)).isOk)) = some ([-1, -1], 0) := by
    decide +kernel
  cases hcatalog : survey.catalog "catalog.yaml" with
  | error reason =>
    rw [hcatalog] at hread
    cases hread
  | ok catalog =>
    rw [hcatalog] at hread
    obtain ⟨hids, hfailures⟩ := Prod.mk.inj (Option.some.inj hread)
    exact ⟨catalog, rfl, hids, hfailures⟩

/-- The catalog of the survey is compiled with success. -/
theorem exitCode?_validate_survey :
    (launch survey .unreachable () (validateArguments "catalog.yaml")).exitCode? = some 0 := by
  obtain ⟨settings, hsettings⟩ : ∃ settings, survey.settings = .ok settings := ⟨_, rfl⟩
  obtain ⟨catalog, hcatalog, -, hfailures⟩ := catalog_survey
  rw [launch_validate survey _ () hsettings (by decide) hcatalog]
  exact (exitCode?_validate_eq_zero_iff catalog).mpr hfailures

/-- The catalog of the survey is compiled with success, and its workflow runs whenever it is asked
for. -/
theorem launch_validate_agrees_run_survey :
    ∃ settings catalog, survey.settings = .ok settings ∧
      survey.catalog "catalog.yaml" = .ok catalog ∧ -1 ∈ catalog.workflows.map Workflow.id ∧
      (launch survey .unreachable () (validateArguments "catalog.yaml")).exitCode? = some 0 ∧
      ∀ later input, (launch { survey with now := later } .unreachable ()
        (runArguments "catalog.yaml" (-1) input)).exitCode? = some 0 := by
  obtain ⟨settings, hsettings⟩ : ∃ settings, survey.settings = .ok settings := ⟨_, rfl⟩
  obtain ⟨catalog, hcatalog, hids, -⟩ := catalog_survey
  have hid : -1 ∈ catalog.workflows.map Workflow.id := by simp [hids]
  refine ⟨settings, catalog, hsettings, hcatalog, hid, exitCode?_validate_survey,
    fun later input => ?_⟩
  obtain ⟨-, -, hruns⟩ := launch_validate_agrees_run survey .unreachable () hsettings
    (by decide) hcatalog
  obtain ⟨_, _, _, chain, _, _, _, _, hrun⟩ := hruns exitCode?_validate_survey (-1) hid
  obtain ⟨results, hlaunch⟩ := hrun { survey with now := later } settings rfl hsettings
    .unreachable () input
  rw [hlaunch]
  rfl

/-- A negative id that stands alone is no value of an option: the workflow of the survey does not
run if it is asked for like that, though the catalog is compiled with success. -/
theorem launch_run_of_negative_id :
    (launch survey .unreachable () ["validate", "-c", "catalog.yaml"]).exitCode? = some 0 ∧
    (∃ catalog, survey.catalog "catalog.yaml" = .ok catalog ∧
      -1 ∈ catalog.workflows.map Workflow.id) ∧
    (launch survey .unreachable ()
      ["run", "-c", "catalog.yaml", "-i", "-1", "--worker", "placeholder"]).exitCode? = some 2 := by
  obtain ⟨catalog, hcatalog, hids, -⟩ := catalog_survey
  exact ⟨exitCode?_validate_survey, ⟨catalog, hcatalog, by simp [hids]⟩, by decide +kernel⟩

end CommandLine

end AgentFlow
