import AgentFlow.Api.Origins
import AgentFlow.Proofs.Settings
import AgentFlow.Proofs.Text.Parts
import AgentFlow.Proofs.Text.Trim
import AgentFlow.Proofs.Text.Utf8

/-!
# Pages of listed origins

A page may read an answer if the field `access-control-allow-origin` names the origin of the page or
every origin. The settings list origins between commas. If a header field can hold one of them, an
answer admits the page it goes to exactly if its origin is one of those, whatever is asked for and
whatever comes of it; no answer has the field of its own accord. If none is left, every page is
admitted.
-/

namespace AgentFlow

namespace Http

/-- A text may stand as the value of a field if none of its bytes is a control but the tab. -/
theorem isFieldValue_iff {s : String} :
    isFieldValue s = true ↔ ∀ b ∈ s.toUTF8.toList, b.toNat = 9 ∨ 32 ≤ b.toNat ∧ b.toNat ≠ 127 := by
  have htab {c : Char} : c = '\t' ↔ c.toNat = 9 := Char.toNat_inj.symm
  have hchar {c : Char} : isFieldChar c = true ↔ c.toNat = 9 ∨ 32 ≤ c.toNat ∧ c.toNat ≠ 127 := by
    simp only [isFieldChar, Bool.or_eq_true, Bool.and_eq_true, decide_eq_true_eq, bne_iff_ne,
      beq_iff_eq, htab]
    exact or_comm
  rw [isFieldValue, List.all_eq_true, Text.toList_toUTF8]
  constructor
  · intro h b hb
    obtain ⟨c, hc, hbyte⟩ := List.mem_flatMap.mp hb
    -- A byte of 128 and more is no control, whatever character it is a part of.
    by_cases hascii : b.toNat < 128
    · rw [← Text.toNat_eq_of_mem_utf8EncodeChar hascii hbyte]
      exact hchar.mp (h c hc)
    · omega
  · intro h c hc
    by_cases hascii : c.toNat ≤ 127
    · have hbyte : UInt8.ofNat c.toNat ∈ String.utf8EncodeChar c := by
        rw [Text.utf8EncodeChar_of_toNat_le hascii]
        exact List.mem_cons_self
      have hcode : (UInt8.ofNat c.toNat).toNat = c.toNat := by
        rw [UInt8.toNat_ofNat', Nat.mod_eq_of_lt (by omega)]
      rw [hchar, ← hcode]
      exact h _ (List.mem_flatMap.mpr ⟨c, hc, hbyte⟩)
    · exact hchar.mpr (by omega)

/-- The values of all fields with a name. -/
def valuesOf (name : String) (fields : List HeaderField) : List String :=
  (fields.filter (·.1 = name)).map (·.2)

/-- Values of fields are taken in order. -/
theorem valuesOf_append (name : String) (fields more : List HeaderField) :
    valuesOf name (fields ++ more) = valuesOf name fields ++ valuesOf name more := by
  rw [valuesOf, List.filter_append, List.map_append, valuesOf, valuesOf]

/-- Fields of other names have no values for a name. -/
theorem valuesOf_eq_nil {name : String} {fields : List HeaderField}
    (h : ∀ field ∈ fields, field.1 ≠ name) : valuesOf name fields = [] := by
  rw [valuesOf, List.map_eq_nil_iff, List.filter_eq_nil_iff]
  intro field hfield
  simpa using h field hfield

end Http

namespace Settings

/-- A text stands between commas of another one, with nothing but blanks around it and none at its
ends. -/
def Lists (value origin : String) : Prop :=
  ∃ segments front back, value = ",".intercalate segments ∧
    (∀ segment ∈ segments, ',' ∉ segment.toList) ∧ front ++ origin ++ back ∈ segments ∧
    (∀ c ∈ front.toList, Text.isBlank c = true) ∧ (∀ c ∈ back.toList, Text.isBlank c = true) ∧
    Text.IsTight origin.toList

/-- What a text lists are its parts, trimmed. -/
theorem lists_iff {value origin : String} :
    Lists value origin ↔ origin ∈ (Text.partsOf ',' value).map Text.trimmed := by
  rw [List.mem_map]
  constructor
  · rintro ⟨segments, front, back, hvalue, hplain, hmem, hblanks⟩
    have hparts := (Text.partsOf_eq_iff (List.ne_nil_of_mem hmem)).mpr ⟨hplain, hvalue⟩
    exact ⟨_, hparts ▸ hmem, Text.trimmed_eq_iff.mpr ⟨front, back, rfl, hblanks⟩⟩
  · rintro ⟨part, hpart, htrimmed⟩
    obtain ⟨hplain, hvalue⟩ := (Text.partsOf_eq_iff (List.ne_nil_of_mem hpart)).mp rfl
    obtain ⟨front, back, rfl, hblanks⟩ := Text.trimmed_eq_iff.mp htrimmed
    exact ⟨_, front, back, hvalue, hplain, hpart, hblanks⟩

/-- The origins that are read are those listed, but for the empty one. -/
theorem mem_readOrigins_iff {value origin : String} :
    origin ∈ readOrigins value ↔ Lists value origin ∧ origin ≠ "" := by
  rw [readOrigins, List.mem_filter, ← lists_iff]
  simp

/-- Settings that are read have the origins that a text gives. -/
theorem allowedOrigins_of_ofTexts {text? : String → Option String} {settings : Settings}
    {value : String} (hsettings : ofTexts text? = .ok settings)
    (hvalue : text? "AGENTOPS_ALLOWED_ORIGINS" = some value) :
    settings.allowedOrigins = readOrigins value := by
  obtain ⟨_, _, _, _, _, horigins, _, _⟩ := ofTexts_eq_ok_iff.mp hsettings
  rw [horigins, hvalue]
  rfl

end Settings

namespace Api

open Http Time

/-- The names of the fields that answers have of their own accord. -/
def ownNames : List String := ["content-type", "cache-control", "allow"]

/-- A response has no fields but those that answers have of their own accord. -/
structure HasOwnFields (response : Response) : Prop where
  names : ∀ field ∈ response.fields, field.1 ∈ ownNames

section OwnFields

/-- A text as a response says what it is. -/
theorem hasOwnFields_text (status : Nat) (s : String) : HasOwnFields (.text status s) := by
  refine ⟨fun field hfield => ?_⟩
  cases List.mem_singleton.mp hfield
  decide

/-- A value as a response says what it is. -/
theorem hasOwnFields_json (status : Nat) (v : Json) : HasOwnFields (.json status v) := by
  refine ⟨fun field hfield => ?_⟩
  cases List.mem_singleton.mp hfield
  decide

/-- A stream of events says what it is. -/
theorem hasOwnFields_events (data : List Json) : HasOwnFields (.events data) := by
  refine ⟨fun field hfield => ?_⟩
  rcases List.mem_pair.mp hfield with rfl | rfl <;> decide

/-- A request that is not understood is answered with fields of the program's own. -/
theorem Rejection.hasOwnFields_response (rejection : Rejection) :
    HasOwnFields rejection.response := by
  cases rejection with
  | unknownPath => exact ⟨fun _ => nofun⟩
  | unknownMethod allowed =>
    refine ⟨fun field hfield => ?_⟩
    rw [List.mem_singleton.mp hfield]
    show "allow" ∈ ownNames
    decide
  | badId fault => exact hasOwnFields_text ..
  | notJson => exact hasOwnFields_text ..
  | tooLong => exact hasOwnFields_text ..
  | notText => exact hasOwnFields_text ..
  | badBody body fault =>
    rw [response]
    split <;> exact hasOwnFields_text ..

variable {σ : Type} (worker : Worker σ)

theorem hasOwnFields_runResponse (workflow? : Option Workflow) (roster : Roster) (memory : σ) :
    HasOwnFields (runResponse worker workflow? roster memory).1 := by
  unfold runResponse
  split
  · exact hasOwnFields_json ..
  · split <;> exact hasOwnFields_json ..

theorem hasOwnFields_streamResponse (workflow? : Option Workflow) (roster : Roster) (memory : σ) :
    HasOwnFields (streamResponse worker workflow? roster memory).1 := by
  unfold streamResponse
  split
  · exact hasOwnFields_json ..
  · split
    · exact hasOwnFields_json ..
    · exact hasOwnFields_events ..

theorem hasOwnFields_reply (now : Instant) (conversation : Conversation) :
    HasOwnFields (reply now conversation) := by
  rw [reply]
  split
  · exact hasOwnFields_json ..
  · split <;> exact hasOwnFields_json ..

/-- What is done for a request is answered with fields of the program's own. -/
theorem Action.hasOwnFields_perform (action : Action) (now : Instant) (store : Store) (memory : σ) :
    HasOwnFields (action.perform worker now store memory).1 := by
  have hfound {α : Type} (found? : Option α) (toJson : α → Json) (message : String) :
      HasOwnFields (found?.elim (.failure 404 message) fun x => .json 200 (toJson x)) := by
    cases found? <;> exact hasOwnFields_json ..
  have hdeleted (found : Bool) (message : String) :
      HasOwnFields (if found then deleted else .failure 404 message) := by
    cases found <;> exact hasOwnFields_json ..
  cases action with
  | welcome => exact hasOwnFields_json ..
  | health => exact hasOwnFields_json ..
  | chat conversation => exact hasOwnFields_reply now conversation
  | listAgents => exact hasOwnFields_json ..
  | createAgent draft => exact hasOwnFields_json ..
  | showAgent id => exact hfound ..
  | updateAgent id patch => exact hfound ..
  | deleteAgent id => exact hdeleted ..
  | listWorkflows => exact hasOwnFields_json ..
  | createWorkflow draft => exact hasOwnFields_json ..
  | showWorkflow id => exact hfound ..
  | deleteWorkflow id => exact hdeleted ..
  | runWorkflow id =>
    exact hasOwnFields_runResponse worker (store.workflow? id) store.roster memory
  | streamWorkflow id =>
    exact hasOwnFields_streamResponse worker (store.workflow? id) store.roster memory

/-- Every request is answered with fields of the program's own. -/
theorem hasOwnFields_answer (now : Instant) (r : Request) (store : Store) (memory : σ) :
    HasOwnFields (answer worker now r store memory).1 := by
  have hsent {response : Response} (h : HasOwnFields response) :
      HasOwnFields (if r.method = .head then response.withoutBody else response) := by
    split
    · exact ⟨h.names⟩
    · exact h
  rw [answer]
  cases Action.ofRequest r with
  | error rejection => exact hsent rejection.hasOwnFields_response
  | ok action => exact hsent (action.hasOwnFields_perform worker now store memory)

end OwnFields

/-- The origins that an answer admits. -/
def admittedBy (response : Response) : List String :=
  valuesOf "access-control-allow-origin" response.fields

/-- An answer admits what the policy does. -/
theorem admittedBy_answerFrom {σ : Type} (policy : Origins) (worker : Worker σ) (now : Instant)
    (r : Request) (store : Store) (memory : σ) :
    admittedBy (answerFrom policy worker now r store memory).1 =
      valuesOf "access-control-allow-origin" (policy.admission r) := by
  rw [answerFrom]
  split
  · have hothers : valuesOf "access-control-allow-origin"
        [Origins.vary, ("access-control-allow-methods", "*"),
          ("access-control-allow-headers", "*")] = [] := by decide
    rw [Origins.permission, admittedBy, Response.empty, valuesOf_append, hothers, List.append_nil]
  · have hown : valuesOf "access-control-allow-origin"
        (answer worker now r store memory).1.fields = [] := by
      refine valuesOf_eq_nil fun field hfield heq => ?_
      have hname := (hasOwnFields_answer worker now r store memory).names field hfield
      rw [heq] at hname
      exact absurd hname (by decide)
    have hvary : valuesOf "access-control-allow-origin" [Origins.vary] = [] := by decide
    have hexposure : valuesOf "access-control-allow-origin" policy.exposure = [] := by
      cases policy with
      | every => decide
      | listed origins => rfl
    dsimp only [admittedBy]
    rw [valuesOf_append, valuesOf_append, valuesOf_append, hown, hvary, hexposure, List.append_nil,
      List.append_nil, List.nil_append]

namespace Origins

/-- The origins that a text of settings makes usable: those that it lists, but for the empty one,
of which a header field can hold every byte. -/
structure Usable (value origin : String) : Prop where
  listed : Settings.Lists value origin
  ne_empty : origin ≠ ""
  legal : ∀ b ∈ origin.toUTF8.toList, b.toNat = 9 ∨ 32 ≤ b.toNat ∧ b.toNat ≠ 127

/-- The policy is made from the usable origins. -/
theorem mem_usable_iff {value origin : String} :
    origin ∈ (Settings.readOrigins value).filter isFieldValue ↔ Usable value origin := by
  rw [List.mem_filter, Settings.mem_readOrigins_iff, isFieldValue_iff]
  exact ⟨fun ⟨⟨hlisted, hne⟩, hlegal⟩ => ⟨hlisted, hne, hlegal⟩,
    fun ⟨hlisted, hne, hlegal⟩ => ⟨⟨hlisted, hne⟩, hlegal⟩⟩

/-- Every page is admitted where every origin is meant. -/
theorem valuesOf_admission_every (r : Request) :
    valuesOf "access-control-allow-origin" (every.admission r) = ["*"] := by
  rw [admission]
  rfl

/-- Where origins are listed, a page is admitted by its origin if that is one of them. -/
theorem valuesOf_admission_listed (origins : List String) (r : Request) :
    valuesOf "access-control-allow-origin" ((listed origins).admission r) =
      ((r.field? "origin").filter (· ∈ origins)).toList := by
  cases horigin : r.field? "origin" with
  | none =>
    simp only [admission, horigin]
    rfl
  | some origin =>
    simp only [admission, horigin, Option.filter_some, decide_eq_true_eq]
    split <;> rfl

/-- If the wildcard is not usable, the policy admits the usable origins, or every one if there are
none. -/
theorem ofSettings?_eq {origins : List String} (hwild : "*" ∉ origins.filter isFieldValue) :
    ofSettings? origins = some (if origins.filter isFieldValue = [] then every
      else listed (origins.filter isFieldValue)) := by
  rw [ofSettings?]
  split
  next hnone => rw [if_pos hnone]
  next hsome => rw [if_neg hwild, if_neg hsome]

/-- **Listed origins.** Where the settings give origins and none of them is the wildcard, there is a
policy of origins, and by it answers to whatever requests admit pages as follows. If some of the
origins are usable, an answer admits an origin exactly if the request comes from it and it is one of
those; it admits none if the request comes from nowhere or from elsewhere. If none is usable, every
answer admits every origin. -/
theorem ofSettings?_admits_usable {text? : String → Option String} {settings : Settings}
    {value : String} (hsettings : Settings.ofTexts text? = .ok settings)
    (hvalue : text? "AGENTOPS_ALLOWED_ORIGINS" = some value)
    (hwild : ¬ Settings.Lists value "*") :
    ∃ policy, ofSettings? settings.allowedOrigins = some policy ∧
      ∀ {σ : Type} (worker : Worker σ) (now : Instant) (r : Request) (store : Store) (memory : σ),
        let admitted := admittedBy (answerFrom policy worker now r store memory).1
        ((∃ origin, Usable value origin) →
          (∀ origin, admitted = [origin] ↔ r.field? "origin" = some origin ∧ Usable value origin) ∧
            (admitted ≠ [] ↔ ∃ origin, r.field? "origin" = some origin ∧ Usable value origin)) ∧
        ((¬ ∃ origin, Usable value origin) → admitted = ["*"]) := by
  have hstar : "*" ∉ (Settings.readOrigins value).filter isFieldValue := fun hmem =>
    hwild (mem_usable_iff.mp hmem).listed
  rw [Settings.allowedOrigins_of_ofTexts hsettings hvalue, ofSettings?_eq hstar]
  refine ⟨_, rfl, fun worker now r store memory => ?_⟩
  rw [admittedBy_answerFrom]
  refine ⟨fun ⟨_, husable⟩ => ?_, fun hnone => ?_⟩
  · have hne := List.ne_nil_of_mem (mem_usable_iff.mpr husable)
    have hadmitted {origin : String} :
        (r.field? "origin").filter (· ∈ (Settings.readOrigins value).filter isFieldValue) =
            some origin ↔ r.field? "origin" = some origin ∧ Usable value origin := by
      rw [Option.filter_eq_some_iff, decide_eq_true_eq, mem_usable_iff]
    rw [if_neg hne, valuesOf_admission_listed]
    refine ⟨fun origin => Option.toList_eq_singleton_iff.trans hadmitted, ?_⟩
    rw [ne_eq, Option.toList_eq_nil_iff, ← ne_eq, Option.ne_none_iff_exists']
    exact exists_congr fun origin => hadmitted
  · have hnil : (Settings.readOrigins value).filter isFieldValue = [] :=
      List.eq_nil_iff_forall_not_mem.mpr fun origin hmem => hnone ⟨origin, mem_usable_iff.mp hmem⟩
    rw [if_pos hnil]
    exact valuesOf_admission_every r

/-- One origin is given between blanks, beside an empty one and one with a control character. -/
theorem ofSettings?_admits_usable_one :
    let value := " https://one.example ,,two\x7f"
    let text? := fun name => if name = "AGENTOPS_ALLOWED_ORIGINS" then some value else none
    let settings := { Settings.default with allowedOrigins := Settings.readOrigins value }
    let asked (origin : String) : Request := ⟨.get, "/nowhere", [("origin", origin)], .empty⟩
    Settings.ofTexts text? = .ok settings ∧ text? "AGENTOPS_ALLOWED_ORIGINS" = some value ∧
    ¬ Settings.Lists value "*" ∧ Usable value "https://one.example" ∧
    ∃ policy, ofSettings? settings.allowedOrigins = some policy ∧
      ∀ now store,
        admittedBy (answerFrom policy (.placeholder : Worker Unit) now
          (asked "https://one.example") store ()).1 = ["https://one.example"] ∧
        admittedBy (answerFrom policy (.placeholder : Worker Unit) now
          (asked "https://two.example") store ()).1 = [] := by
  intro value text? settings asked
  have hsettings : Settings.ofTexts text? = .ok settings := rfl
  have hvalue : text? "AGENTOPS_ALLOWED_ORIGINS" = some value := rfl
  have hwild : ¬ Settings.Lists value "*" := by
    rw [Settings.lists_iff]
    decide
  have husable : Usable value "https://one.example" := mem_usable_iff.mp (by decide)
  have hother : ¬ Usable value "https://two.example" := fun h =>
    absurd (mem_usable_iff.mpr h) (by decide)
  obtain ⟨policy, hpolicy, hanswers⟩ := ofSettings?_admits_usable hsettings hvalue hwild
  refine ⟨hsettings, hvalue, hwild, husable, policy, hpolicy, fun now store => ⟨?_, ?_⟩⟩
  · obtain ⟨hlisted, -⟩ := (hanswers .placeholder now (asked _) store ()).1 ⟨_, husable⟩
    exact (hlisted _).mpr ⟨rfl, husable⟩
  · obtain ⟨-, hsome⟩ := (hanswers .placeholder now (asked _) store ()).1 ⟨_, husable⟩
    by_contra hne
    obtain ⟨origin, horigin, horiginUsable⟩ := hsome.mp hne
    cases Option.some.inj horigin
    exact hother horiginUsable

end Origins

end Api

end AgentFlow
