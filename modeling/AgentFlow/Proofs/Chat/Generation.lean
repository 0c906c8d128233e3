import AgentFlow.Proofs.Chain.Run
import AgentFlow.Proofs.Chat.Completion
import AgentFlow.Proofs.Number.Decimal
import AgentFlow.Proofs.Settings

/-!
# How settings configure a model

Whatever is run, each call of the worker that asks a model tells, of the settings of generation, the
temperature alone, and only if a text for it was given. A temperature that is a finite number is
told as this number. A text may be read as what is not finite, though: then null is told in its
place.
-/

namespace AgentFlow

open Json Number

variable {σ : Type}

namespace Settings

/-! ### The temperature -/

/-- The temperature is what is read from its text. -/
theorem temperature_of_ofTexts {text? : String → Option String} {settings : Settings}
    (h : ofTexts text? = .ok settings) :
    (text? "MODEL_TEMPERATURE" = none → settings.temperature = none) ∧
      ∀ text, text? "MODEL_TEMPERATURE" = some text →
        ∃ x, Binary.read? text.toList = some x ∧ settings.temperature = some x := by
  obtain ⟨-, -, htemperature, -⟩ := ofTexts_eq_ok_iff.mp h
  constructor
  · intro hnone
    rw [hnone] at htemperature
    exact given_none.mp htemperature
  · intro text htext
    rw [htext, given_some] at htemperature
    obtain ⟨x, hread, hx⟩ := map_eq_ok_iff.mp htemperature
    refine ⟨x, ?_, hx.symm⟩
    rw [readTemperature] at hread
    split at hread
    next y hy =>
      cases hread
      exact hy
    next => cases hread

/-- A text for the temperature that is read as nothing keeps the settings from being read. -/
theorem ofTexts_of_temperature {text? : String → Option String} {listenAt : Nat}
    {worker : WorkerKind}
    (hport : given (text? "AGENTOPS_PORT") default.port readPort = .ok listenAt)
    (hworker : given (text? "AGENTOPS_WORKER") default.worker WorkerKind.ofText = .ok worker)
    {text : String} (htext : text? "MODEL_TEMPERATURE" = some text)
    (hread : (Binary.read? text.toList : Option Single) = none) :
    ofTexts text? = .error (.invalidTemperature text) := by
  rw [ofTexts, hport, hworker, htext, given_some, readTemperature, hread]
  rfl

/-- A text for the temperature is refused if it writes neither a number nor what is none. -/
theorem read?_eq_none_of_writes {cs : List Char} (hnumber : ¬WritesNumber cs)
    (hnone : ¬WritesNoNumber cs) : (Binary.read? cs : Option Single) = none := by
  rw [Option.eq_none_iff_forall_ne_some]
  intro x hx
  cases hfinite : x.isFinite with
  | true => exact hnumber (read?_single_iff.1.mp ⟨x, hx, hfinite⟩)
  | false => exact hnone (read?_single_iff.2.mp ⟨x, hx, hfinite⟩)

/-! ### Calls -/

/-- A temperature is told as the same number if it is one, and as null if it is none. -/
theorem write_temperature {x : Single} (h : x.Fits) :
    (∀ q, x.value? = some q → ∃ d : Double, Codec.single.write x = .float d ∧ d.value? = some q) ∧
      (x.value? = none → Codec.single.write x = .null) := by
  have hsame : (x.convert : Double).value? = x.value? :=
    Binary.value?_convert (by decide) (by decide) (by decide) h
  change (∀ q, x.value? = some q → ∃ d : Double,
    (if x.isFinite then Json.float x.convert else .null) = .float d ∧ d.value? = some q) ∧
      (x.value? = none → (if x.isFinite then Json.float x.convert else .null) = .null)
  constructor
  · intro q hq
    rw [if_pos (Binary.isFinite_iff.mpr ⟨q, hq⟩)]
    exact ⟨x.convert, rfl, hsame.trans hq⟩
  · intro hnone
    rw [Binary.value?_eq_none_iff.mp hnone]
    rfl

/-- What a text is read as is told as a number if the text writes one, and else as null. -/
theorem write_of_read? {cs : List Char} {x : Single} (hread : Binary.read? cs = some x) :
    (WritesNumber cs ∨ WritesNoNumber cs) ∧
      (WritesNumber cs → ∃ (q : Rat) (d : Double),
        x.value? = some q ∧ Codec.single.write x = .float d ∧ d.value? = some q) ∧
      (WritesNoNumber cs → Codec.single.write x = .null) := by
  obtain ⟨hnumber, hnull⟩ := write_temperature (Binary.fits_of_read? (by decide) (by decide) hread)
  refine ⟨?_, fun hwrites => ?_, fun hwrites => ?_⟩
  · cases hfinite : x.isFinite with
    | true => exact .inl (read?_single_iff.1.mp ⟨x, hread, hfinite⟩)
    | false => exact .inr (read?_single_iff.2.mp ⟨x, hread, hfinite⟩)
  · obtain ⟨y, hy, hfinite⟩ := read?_single_iff.1.mpr hwrites
    cases hread.symm.trans hy
    obtain ⟨q, hq⟩ := Binary.isFinite_iff.mp hfinite
    obtain ⟨d, hwrite, hd⟩ := hnumber q hq
    exact ⟨q, d, hq, hwrite, hd⟩
  · obtain ⟨y, hy, hinfinite⟩ := read?_single_iff.2.mpr hwrites
    cases hread.symm.trans hy
    exact hnull (Binary.value?_eq_none_iff.mpr hinfinite)

/-- The body of a call for a step tells, of the settings of generation, the temperature alone. -/
theorem tells_requestFor_iff (settings : Settings) (a : Assignment) (v : Json) :
    (¬(Worker.requestFor settings.generation a).Tells "max_tokens" v) ∧
      (¬(Worker.requestFor settings.generation a).Tells "top_p" v) ∧
      ((Worker.requestFor settings.generation a).Tells "temperature" v ↔
        ∃ x, settings.temperature = some x ∧ v = Codec.single.write x) := by
  have hconfig (config : Chat.GenerationConfig) :
      (Worker.requestFor settings.generation a).config = some config ↔
        ∃ x, settings.temperature = some x ∧ (⟨some x, none, none⟩ : Chat.GenerationConfig) =
          config := by
    simp only [Worker.requestFor, generation, Option.map_eq_some_iff, Chat.GenerationConfig.empty]
  simp only [Chat.Request.tells_iff, String.reduceEq, false_and, false_or, or_false, true_and,
    hconfig]
  refine ⟨?_, ?_, ?_⟩
  · rintro ⟨_, n, ⟨x, -, rfl⟩, hn, -⟩
    cases hn
  · rintro ⟨_, y, ⟨x, -, rfl⟩, hy, -⟩
    cases hy
  · constructor
    · rintro ⟨_, y, ⟨x, hx, rfl⟩, hy, rfl⟩
      cases hy
      exact ⟨y, hx, rfl⟩
    · rintro ⟨x, hx, rfl⟩
      exact ⟨_, x, ⟨x, hx, rfl⟩, rfl, rfl⟩

/-- Settings with a key that is not blank have a worker that asks a model with it. -/
theorem stepWorker_of_key {settings : Settings} (hworker : settings.worker = .model) {key : String}
    (hkey : settings.apiKey = some key) (hblank : Text.allBlank key = false)
    (transport : Chat.Transport σ) :
    ∃ endpoint : Chat.Endpoint, endpoint.key = key ∧
      settings.stepWorker transport =
        .ok (.ofModel (endpoint.model transport) settings.generation) := by
  simp only [stepWorker, hworker, Chat.Endpoint.ofSettings, hkey, Option.filter, hblank,
    Bool.not_false, if_true]
  exact ⟨⟨key, _⟩, rfl, rfl⟩

end Settings

namespace Chat.Endpoint

variable {endpoint : Endpoint} {config : Option GenerationConfig} {transport : Transport σ}

/-- Each step that a model is asked for makes one call. -/
theorem perform_logged (a : Assignment) (memory : σ × List Call) :
    ((Worker.ofModel (endpoint.model transport.logged) config).perform a memory).2.2 =
      memory.2 ++ [endpoint.call (Worker.requestFor config a)] := by
  simp only [Worker.ofModel, model, Transport.logged]

/-- A transport has been called for each call of the worker, in the same order. -/
def CallsAgree (endpoint : Endpoint) (config : Option GenerationConfig)
    (memory : (σ × List Call) × List AgentFlow.Call) : Prop :=
  memory.1.2 = memory.2.map fun call => endpoint.call (Worker.requestFor config call.assignment)

/-- Each step keeps the calls of the transport along with those of the worker. -/
theorem CallsAgree.perform (a : Assignment) (memory : (σ × List Call) × List AgentFlow.Call)
    (h : CallsAgree endpoint config memory) :
    CallsAgree endpoint config
      ((Worker.ofModel (endpoint.model transport.logged) config).logged.perform a memory).2 := by
  simp only [CallsAgree, Worker.logged, List.map_append, List.map_cons, List.map_nil]
  rw [← h]
  exact perform_logged a memory.1

/-- The calls of a run are those for the steps that it has come to. -/
theorem exists_calls_eq (endpoint : Endpoint) (config : Option GenerationConfig)
    (transport : Transport σ) (chain : Chain) (initial : ExecutionState) (memory : σ) :
    ∃ asked, asked ≠ [] ∧
      (chain.run (.ofModel (endpoint.model transport.logged) config) initial (memory, [])).2.2 =
        asked.map fun a => endpoint.call (Worker.requestFor config a) := by
  have hagree : CallsAgree endpoint config (chain.run
      (Worker.ofModel (endpoint.model transport.logged) config).logged initial
        ((memory, []), [])).2 :=
    chain.run_preserves CallsAgree.perform initial rfl
  obtain ⟨calls, hcalls, hlogged⟩ :=
    chain.run_logged (.ofModel (endpoint.model transport.logged) config) initial (memory, [])
  rw [hlogged] at hagree
  refine ⟨calls.map (·.assignment), mt List.map_eq_nil_iff.mp hcalls, ?_⟩
  rw [List.map_map]
  exact hagree

end Chat.Endpoint

/-- All calls of a run tell, of the settings of generation, the temperature alone. -/
theorem Settings.exists_stepWorker_tells {settings : Settings} (hworker : settings.worker = .model)
    {key : String} (hkey : settings.apiKey = some key) (hblank : Text.allBlank key = false)
    (transport : Chat.Transport σ) :
    ∃ worker, settings.stepWorker transport.logged = .ok worker ∧
      ∀ (chain : Chain) (initial : ExecutionState) (memory : σ),
        (chain.run worker initial (memory, [])).2.2 ≠ [] ∧
        ∀ call ∈ (chain.run worker initial (memory, [])).2.2, ∃ members,
          call.body = .object members ∧ KeysIncrease members ∧
          ∀ v, ("max_tokens", v) ∉ members ∧ ("top_p", v) ∉ members ∧
            (("temperature", v) ∈ members ↔
              ∃ x, settings.temperature = some x ∧ v = Codec.single.write x) := by
  obtain ⟨endpoint, rfl, hstep⟩ := stepWorker_of_key hworker hkey hblank transport.logged
  refine ⟨_, hstep, fun chain initial memory => ?_⟩
  obtain ⟨asked, hasked, hcalls⟩ :=
    Chat.Endpoint.exists_calls_eq endpoint settings.generation transport chain initial memory
  rw [hcalls]
  refine ⟨mt List.map_eq_nil_iff.mp hasked, fun call hcall => ?_⟩
  obtain ⟨a, -, rfl⟩ := List.mem_map.mp hcall
  obtain ⟨members, hbody, hkeys, hmembers⟩ :=
    (Worker.requestFor settings.generation a).exists_body_eq
  refine ⟨members, hbody, hkeys, fun v => ?_⟩
  simp only [hmembers]
  exact tells_requestFor_iff settings a v

/-- **Temperatures.** Let settings be read that ask for a model, with a key that is not blank. Then
there is a worker, each run of it makes some calls, and all calls tell the same of the settings of
generation: neither a limit of tokens nor a share of the likeliest ones, and a temperature only if
there is a text for it. If the text writes a number, the temperature is told as one, and it is the
value of 32 bits that is read from the text. But a text is also read if it writes what is no finite
number; for such a text null is told. Texts that write neither are refused. -/
theorem Settings.calls_tell_temperature (text? : String → Option String) :
    (∀ settings key, ofTexts text? = .ok settings → settings.worker = .model →
      text? "OPENAI_API_KEY" = some key → Text.allBlank key = false →
      ∀ (transport : Chat.Transport σ), ∃ worker,
        settings.stepWorker transport.logged = .ok worker ∧
        ∀ (chain : Chain) (initial : ExecutionState) (memory : σ),
          (chain.run worker initial (memory, [])).2.2 ≠ [] ∧
          ∀ call ∈ (chain.run worker initial (memory, [])).2.2, ∃ members,
            call.body = .object members ∧ KeysIncrease members ∧
            (∀ v, ("max_tokens", v) ∉ members ∧ ("top_p", v) ∉ members) ∧
            (text? "MODEL_TEMPERATURE" = none → ∀ v, ("temperature", v) ∉ members) ∧
            ∀ text, text? "MODEL_TEMPERATURE" = some text → ∃ x told,
              Binary.read? text.toList = some x ∧ settings.temperature = some x ∧
              (∀ v, ("temperature", v) ∈ members ↔ v = told) ∧
              (WritesNumber text.toList ∨ WritesNoNumber text.toList) ∧
              (WritesNumber text.toList →
                ∃ q d, x.value? = some q ∧ told = .float d ∧ d.value? = some q) ∧
              (WritesNoNumber text.toList → told = .null)) ∧
      ∀ listenAt worker text,
        given (text? "AGENTOPS_PORT") default.port readPort = .ok listenAt →
        given (text? "AGENTOPS_WORKER") default.worker WorkerKind.ofText = .ok worker →
        text? "MODEL_TEMPERATURE" = some text → ¬WritesNumber text.toList →
        ¬WritesNoNumber text.toList → ofTexts text? = .error (.invalidTemperature text) := by
  refine ⟨fun settings key h hworker hkey hblank transport => ?_,
    fun listenAt worker text hport hworker htext hnumber hnone =>
      ofTexts_of_temperature hport hworker htext (read?_eq_none_of_writes hnumber hnone)⟩
  obtain ⟨hnoText, htemperature⟩ := temperature_of_ofTexts h
  obtain ⟨-, -, -, -, -, -, hapiKey, -⟩ := ofTexts_eq_ok_iff.mp h
  obtain ⟨worker, hstep, hrun⟩ :=
    exists_stepWorker_tells hworker (hapiKey.trans hkey) hblank transport
  refine ⟨worker, hstep, fun chain initial memory => ?_⟩
  obtain ⟨hcalls, htells⟩ := hrun chain initial memory
  refine ⟨hcalls, fun call hcall => ?_⟩
  obtain ⟨members, hbody, hkeys, hmembers⟩ := htells call hcall
  refine ⟨members, hbody, hkeys, fun v => ⟨(hmembers v).1, (hmembers v).2.1⟩, ?_, ?_⟩
  · intro hnone v hmem
    obtain ⟨x, hx, -⟩ := (hmembers v).2.2.mp hmem
    rw [hnoText hnone] at hx
    cases hx
  · intro text htext
    obtain ⟨x, hread, hx⟩ := htemperature text htext
    obtain ⟨hwrites, hnumber, hnone⟩ := write_of_read? hread
    refine ⟨x, Codec.single.write x, hread, hx, fun v => ?_, hwrites, hnumber, hnone⟩
    rw [(hmembers v).2.2, hx]
    exact ⟨fun ⟨_, heq, hv⟩ => Option.some.inj heq ▸ hv, fun hv => ⟨x, rfl, hv⟩⟩

/-- Texts for a model with a temperature. -/
def modelTexts (temperature : String) : String → Option String
  | "AGENTOPS_WORKER" => some "model"
  | "OPENAI_API_KEY" => some "key"
  | "MODEL_TEMPERATURE" => some temperature
  | _ => none

/-- The settings of these texts. -/
def modelSettings (temperature : Single) : Settings :=
  { Settings.default with
    worker := .model
    apiKey := some "key"
    temperature := some temperature }

/-- A chain with one step. -/
def surveyChain : Chain where
  name := "Survey"
  nodes := [⟨"step_1_Ann", .ofDraft 1 ⟨"Ann", none, "small", ""⟩ ⟨⟨2024, 1, 1⟩, 0, 0, 0⟩, "Ask"⟩]
  nonempty := List.cons_ne_nil _ _
  distinct := List.nodup_singleton _

/-- The temperature that these texts give is what is read from it. -/
theorem ofTexts_modelTexts {temperature : String} {x : Single}
    (hread : Binary.read? temperature.toList = some x) :
    Settings.ofTexts (modelTexts temperature) = .ok (modelSettings x) := by
  have hworker : WorkerKind.ofText "model" = .ok .model := by decide
  simp only [Settings.ofTexts, modelTexts, Settings.given_some, hworker, Settings.readTemperature,
    hread]
  rfl

/-- A half is told as a half, and a word that is no number is refused. -/
theorem Settings.calls_tell_temperature_half :
    (∃ settings worker, ofTexts (modelTexts "0.5") = .ok settings ∧
      settings.stepWorker Chat.Transport.unreachable.logged = .ok worker ∧
      ∃ call ∈ (surveyChain.run worker .initial ((), [])).2.2, ∃ members d,
        call.body = .object members ∧ ("temperature", .float d) ∈ members ∧
        d.value? = some (1 / 2)) ∧
      ofTexts (modelTexts "warm") = .error (.invalidTemperature "warm") := by
  constructor
  · -- A half has the mantissa `2 ^ 23`.
    have hread : Binary.read? "0.5".toList = some (.finite false ⟨8388608, -24⟩ : Single) := by
      decide +kernel
    have hnumber : WritesNumber "0.5".toList :=
      ⟨5, -1, by decide, by norm_num [singleLimit]⟩
    obtain ⟨worker, hworker, hrun⟩ := (calls_tell_temperature (modelTexts "0.5")).1 _ "key"
      (ofTexts_modelTexts hread) rfl rfl (by decide) Chat.Transport.unreachable
    obtain ⟨hcalls, htold⟩ := hrun surveyChain .initial ()
    obtain ⟨call, hcall⟩ := List.exists_mem_of_ne_nil _ hcalls
    obtain ⟨members, hbody, -, -, -, htext⟩ := htold call hcall
    obtain ⟨x, told, hx, -, hmember, -, hwrites, -⟩ := htext "0.5" rfl
    obtain ⟨q, d, hq, rfl, hd⟩ := hwrites hnumber
    cases hread.symm.trans hx
    have hhalf : q = 1 / 2 := by
      rw [← Option.some.inj hq]
      norm_num [Scaled.value]
    exact ⟨_, worker, ofTexts_modelTexts hread, hworker, call, hcall, members, d, hbody,
      (hmember _).mpr rfl, hhalf ▸ hd⟩
  · refine (@calls_tell_temperature Unit (modelTexts "warm")).2 8000 .model "warm" rfl (by decide)
      rfl ?_ ?_
    · rintro ⟨n, e, hdecimal, -⟩
      cases hdecimal
    · rintro (hword | ⟨n, e, hdecimal, -⟩)
      · exact absurd hword (by decide)
      · cases hdecimal

/-- A text that is no number can be read, though, and then the model is told null. -/
theorem Settings.calls_tell_null :
    ∃ settings worker, ofTexts (modelTexts "nan") = .ok settings ∧
      settings.stepWorker Chat.Transport.unreachable.logged = .ok worker ∧
      ∃ call ∈ (surveyChain.run worker .initial ((), [])).2.2, ∃ members,
        call.body = .object members ∧ ("temperature", .null) ∈ members := by
  have hread : Binary.read? "nan".toList = some (.nan : Single) := by decide +kernel
  have hworker : (modelSettings .nan).worker = .model := rfl
  obtain ⟨worker, hstep, hrun⟩ :=
    exists_stepWorker_tells hworker rfl (by decide) Chat.Transport.unreachable
  obtain ⟨hcalls, htells⟩ := hrun surveyChain .initial ()
  obtain ⟨call, hcall⟩ := List.exists_mem_of_ne_nil _ hcalls
  obtain ⟨members, hbody, -, hmembers⟩ := htells call hcall
  exact ⟨_, worker, ofTexts_modelTexts hread, hstep, call, hcall, members, hbody,
    (hmembers _).2.2.mpr ⟨.nan, rfl, rfl⟩⟩

end AgentFlow
