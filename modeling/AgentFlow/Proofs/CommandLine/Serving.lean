import AgentFlow.Proofs.Api.Origins
import AgentFlow.Proofs.CommandLine.Program

/-!
# Getting ready to serve clients

Before the program serves clients it makes a policy of the origins that the settings give. If the
wildcard is one of them there is no policy, and the program breaks down. In any other list each
origin has its own effect: pages of it are admitted, or it is passed over and the policy is that of
the others.
-/

namespace AgentFlow

open Http Time

namespace Settings

/-- The wildcard is one of the origins of settings exactly if a text lists it. -/
theorem wildcard_mem_allowedOrigins_iff {text? : String → Option String} {settings : Settings}
    (hsettings : ofTexts text? = .ok settings) :
    "*" ∈ settings.allowedOrigins ↔
      ∃ value, text? "AGENTOPS_ALLOWED_ORIGINS" = some value ∧ Lists value "*" := by
  obtain ⟨_, _, _, _, _, horigins, _, _⟩ := ofTexts_eq_ok_iff.mp hsettings
  rw [horigins]
  cases text? "AGENTOPS_ALLOWED_ORIGINS" with
  | none => exact iff_of_false (by decide) nofun
  | some value =>
    rw [Option.map_some, Option.getD_some, mem_readOrigins_iff]
    exact ⟨fun h => ⟨value, rfl, h.1⟩, fun ⟨_, heq, h⟩ => ⟨Option.some.inj heq ▸ h, by decide⟩⟩

end Settings

namespace Api.Origins

/-- A policy admits an origin: whatever is asked for from there, the answer admits it and no other
one. -/
def Admits (policy : Origins) (origin : String) : Prop :=
  ∀ {σ : Type} (worker : Worker σ) (now : Instant) (r : Request) (store : Store) (memory : σ),
    r.field? "origin" = some origin →
      admittedBy (answerFrom policy worker now r store memory).1 = [origin]

/-- An origin is passed over in a list: some byte of it cannot be in a header field, and the list
without it gives the same policy. -/
structure PassedOver (origins : List String) (origin : String) : Prop where
  illegal : ∃ b ∈ origin.toUTF8.toList, b.toNat ≠ 9 ∧ (b.toNat < 32 ∨ b.toNat = 127)
  policy_eq : ofSettings? (origins.filter (· ≠ origin)) = ofSettings? origins

variable {origins : List String} {origin : String}

/-- There is no policy exactly if the wildcard is one of the origins. -/
theorem ofSettings?_eq_none_iff : ofSettings? origins = none ↔ "*" ∈ origins := by
  have hstar : "*" ∈ origins ↔ "*" ∈ origins.filter isFieldValue := by
    rw [List.mem_filter, and_iff_left (by decide)]
  rw [hstar]
  by_cases hwild : "*" ∈ origins.filter isFieldValue
  · refine iff_of_true ?_ hwild
    cases hlist : origins.filter isFieldValue with
    | nil =>
      rw [hlist] at hwild
      cases hwild
    | cons first rest =>
      rw [hlist] at hwild
      rw [ofSettings?, hlist]
      exact if_pos hwild
  · rw [ofSettings?_eq hwild]
    exact iff_of_false (Option.some_ne_none _) hwild

/-- An origin that no header field can hold is passed over. -/
theorem passedOver_of_not_isFieldValue (h : isFieldValue origin = false) :
    PassedOver origins origin where
  illegal := by
    have hillegal : ¬ isFieldValue origin = true := by simp [h]
    rw [isFieldValue_iff] at hillegal
    push Not at hillegal
    obtain ⟨b, hb, htab, hrange⟩ := hillegal
    exact ⟨b, hb, htab, by omega⟩
  policy_eq := by
    have hsame : (origins.filter (· ≠ origin)).filter isFieldValue =
        origins.filter isFieldValue := by
      rw [List.filter_filter]
      refine List.filter_congr fun other _ => ?_
      by_cases heq : other = origin
      · simp [heq, h]
      · simp [heq]
    rw [ofSettings?, ofSettings?, hsame]

/-- An origin that a header field can hold is admitted by the policy of a list with it. -/
theorem admits_of_isFieldValue (hwild : "*" ∉ origins.filter isFieldValue)
    (hmem : origin ∈ origins) (h : isFieldValue origin = true) {policy : Origins}
    (hpolicy : ofSettings? origins = some policy) : policy.Admits origin := by
  intro σ worker now r store memory horigin
  have husable : origin ∈ origins.filter isFieldValue := List.mem_filter.mpr ⟨hmem, h⟩
  rw [ofSettings?_eq hwild, if_neg (List.ne_nil_of_mem husable)] at hpolicy
  cases hpolicy
  rw [admittedBy_answerFrom, valuesOf_admission_listed, horigin,
    Option.filter_some_pos (by simpa using husable)]
  rfl

end Api.Origins

namespace CommandLine

open Api

/-- **Getting ready.** Settings that are read have a policy of origins unless a text lists the
wildcard. The program then gets ready to serve by this policy, if the settings have a worker; and
each origin that they give is either admitted by the policy or passed over, being nothing that a
header field can hold. If a text does list the wildcard, the program breaks down. -/
theorem prepare_of_ofTexts {text? : String → Option String} {settings : Settings}
    (hsettings : Settings.ofTexts text? = .ok settings) :
    let wild := ∃ value, text? "AGENTOPS_ALLOWED_ORIGINS" = some value ∧ Settings.Lists value "*"
    (¬ wild → ∃ policy, Origins.ofSettings? settings.allowedOrigins = some policy ∧
      (∀ {σ : Type} (transport : Chat.Transport σ) (worker : Worker σ) (catalog : Catalog),
        settings.stepWorker transport = .ok worker → prepare settings transport catalog =
          .serving ⟨settings.address, Store.empty.seed catalog, worker, policy⟩) ∧
      ∀ origin ∈ settings.allowedOrigins,
        policy.Admits origin ∨ Origins.PassedOver settings.allowedOrigins origin) ∧
    (wild → Origins.ofSettings? settings.allowedOrigins = none ∧
      ∀ {σ : Type} (transport : Chat.Transport σ) (worker : Worker σ) (catalog : Catalog),
        settings.stepWorker transport = .ok worker →
          (prepare settings transport catalog).exitCode? = some 101) := by
  intro wild
  have hwild : Origins.ofSettings? settings.allowedOrigins = none ↔ wild :=
    Origins.ofSettings?_eq_none_iff.trans (Settings.wildcard_mem_allowedOrigins_iff hsettings)
  refine ⟨fun htame => ?_, fun h => ⟨hwild.mpr h, fun transport worker catalog hworker => ?_⟩⟩
  · obtain ⟨policy, hpolicy⟩ := Option.ne_none_iff_exists'.mp (mt hwild.mp htame)
    refine ⟨policy, hpolicy, fun transport worker catalog hworker => ?_, fun origin hmem => ?_⟩
    · simp only [prepare, hworker, hpolicy]
    · have hstar : "*" ∉ settings.allowedOrigins.filter isFieldValue := fun hstar =>
        htame (hwild.mp (Origins.ofSettings?_eq_none_iff.mpr (List.mem_of_mem_filter hstar)))
      cases hlegal : isFieldValue origin with
      | true => exact .inl (Origins.admits_of_isFieldValue hstar hmem hlegal hpolicy)
      | false => exact .inr (Origins.passedOver_of_not_isFieldValue hlegal)
  · simp only [prepare, hworker, hwild.mpr h]
    rfl

/-- Two origins are given, of which one has a control character: it is passed over. -/
theorem prepare_of_ofTexts_pair :
    let value := "https://one.example, two\x7f"
    let text? := fun name => if name = "AGENTOPS_ALLOWED_ORIGINS" then some value else none
    let settings := { Settings.default with allowedOrigins := Settings.readOrigins value }
    let policy := Origins.listed ["https://one.example"]
    Settings.ofTexts text? = .ok settings ∧ ¬ Settings.Lists value "*" ∧
    Origins.ofSettings? settings.allowedOrigins = some policy ∧
    policy.Admits "https://one.example" ∧
    Origins.PassedOver settings.allowedOrigins "two\x7f" ∧
    ∀ catalog, prepare settings (.unreachable : Chat.Transport Unit) catalog =
      .serving ⟨settings.address, Store.empty.seed catalog, .placeholder, policy⟩ := by
  intro value text? settings policy
  have hsettings : Settings.ofTexts text? = .ok settings := rfl
  have hwild : ¬ Settings.Lists value "*" := by
    rw [Settings.lists_iff]
    decide
  obtain ⟨found, hfound, hready, hevery⟩ := (prepare_of_ofTexts hsettings).1
    fun ⟨_, hvalue, hlists⟩ => hwild (Option.some.inj hvalue ▸ hlists)
  have hpolicy : Origins.ofSettings? settings.allowedOrigins = some policy := by decide
  obtain rfl : found = policy := Option.some.inj (hfound.symm.trans hpolicy)
  refine ⟨hsettings, hwild, hpolicy, ?_, ?_, fun catalog => hready _ _ catalog rfl⟩
  · refine (hevery _ (by decide)).resolve_right fun hover => ?_
    obtain ⟨b, hb, htab, hrange⟩ := hover.illegal
    have hlegal : isFieldValue "https://one.example" = true := by decide
    have := isFieldValue_iff.mp hlegal b hb
    omega
  · refine (hevery _ (by decide)).resolve_left fun hadmits => ?_
    let r : Request := ⟨.get, "/", [("origin", "two\x7f")], .empty⟩
    have hnone : valuesOf "access-control-allow-origin" (policy.admission r) = [] := by decide
    have hadmitted := hadmits (.placeholder : Worker Unit) ⟨⟨2024, 1, 1⟩, 0, 0, 0⟩ r .empty () rfl
    rw [admittedBy_answerFrom, hnone] at hadmitted
    cases hadmitted

/-- The wildcard alone breaks the program down, before it listens anywhere. -/
theorem not_exists_policy_of_wildcard :
    let text? := fun name => if name = "AGENTOPS_ALLOWED_ORIGINS" then some "*" else none
    (∃ settings, Settings.ofTexts text? = .ok settings ∧
      Origins.ofSettings? settings.allowedOrigins = none) ∧
    (launch ⟨.insert .empty "AGENTOPS_ALLOWED_ORIGINS" "*", fun _ => .error noSuchFile,
      ⟨⟨2024, 1, 1⟩, 0, 0, 0⟩⟩ .unreachable () ["serve"]).exitCode? = some 101 :=
  ⟨⟨_, rfl, by decide⟩, by decide +kernel⟩

end CommandLine

end AgentFlow
