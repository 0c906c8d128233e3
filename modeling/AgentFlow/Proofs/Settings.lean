import AgentFlow.Settings

/-!
# What settings are read from

Settings are read if the texts for the port, the worker and the temperature are values of these. All
other settings are taken from their texts as they are.
-/

namespace AgentFlow.Settings

variable {α : Type}

/-- A setting without a text keeps its default. -/
theorem given_none {otherwise x : α} {read : String → Except SettingsError α} :
    given none otherwise read = .ok x ↔ x = otherwise := by
  rw [given, Option.elim_none, Except.ok.injEq, eq_comm]

/-- A setting with a text is what is read from it. -/
theorem given_some {otherwise : α} {read : String → Except SettingsError α} {text : String} :
    given (some text) otherwise read = read text := rfl

/-- Settings are read from texts field by field. -/
theorem ofTexts_eq_ok_iff {text? : String → Option String} {settings : Settings} :
    ofTexts text? = .ok settings ↔
      given (text? "AGENTOPS_PORT") default.port readPort = .ok settings.port ∧
      given (text? "AGENTOPS_WORKER") default.worker WorkerKind.ofText = .ok settings.worker ∧
      given (text? "MODEL_TEMPERATURE") none (readTemperature · |>.map some) =
        .ok settings.temperature ∧
      settings.host = (text? "AGENTOPS_HOST").getD default.host ∧
      settings.catalog = text? "AGENTOPS_CATALOG" ∧
      settings.allowedOrigins =
        ((text? "AGENTOPS_ALLOWED_ORIGINS").map readOrigins).getD localOrigins ∧
      settings.apiKey = text? "OPENAI_API_KEY" ∧
      settings.baseUrl = text? "OPENAI_BASE_URL" := by
  rw [ofTexts, bind_eq_ok_iff]
  simp only [bind_eq_ok_iff]
  constructor
  · rintro ⟨listenAt, hport, worker, hworker, temperature, htemperature, heq⟩
    cases heq
    exact ⟨hport, hworker, htemperature, rfl, rfl, rfl, rfl, rfl⟩
  · rintro ⟨hport, hworker, htemperature, hhost, hcatalog, horigins, hkey, hbase⟩
    refine ⟨_, hport, _, hworker, _, htemperature, ?_⟩
    cases settings
    cases hhost
    cases hcatalog
    cases horigins
    cases hkey
    cases hbase
    rfl

end AgentFlow.Settings
