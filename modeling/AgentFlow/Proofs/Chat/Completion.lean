import AgentFlow.Chat.Completion
import AgentFlow.Proofs.Codec.Basic
import AgentFlow.Proofs.Http.Url
import AgentFlow.Proofs.Text.Utf8

/-!
# Completions

For each request a model at a provider's address posts one message. Its body tells the model, the
turns and the settings that are set, and nothing else; it goes below the address, unless the address
has a query. What is made of the reply depends on its status, then on whether its body is JSON, and
then on where in this value a text stands.
-/

namespace AgentFlow.Chat

open Json

variable {σ : Type}

/-! ### The body of a call -/

/-- A turn as it stands in the body of a call. -/
def Turn.entry (t : Turn) : Json :=
  .object [("content", .string t.content), ("role", .string t.role.name)]

/-- What the body of a call for a request tells. -/
inductive Request.Tells (request : Request) : String → Json → Prop
  | model : request.Tells "model" (.string request.model)
  | messages : request.Tells "messages" (.array (request.turns.map Turn.entry))
  | temperature {config : GenerationConfig} {x : Number.Single} :
      request.config = some config → config.temperature = some x →
      request.Tells "temperature" (Codec.single.write x)
  | maxTokens {config : GenerationConfig} {n : Int} :
      request.config = some config → config.maxOutputTokens = some n →
      request.Tells "max_tokens" (.int n)
  | topP {config : GenerationConfig} {x : Number.Single} :
      request.config = some config → config.topP = some x →
      request.Tells "top_p" (Codec.single.write x)

/-- What the body of a call tells, name by name. -/
theorem Request.tells_iff {request : Request} {k : String} {v : Json} :
    request.Tells k v ↔
      k = "model" ∧ v = .string request.model ∨
      k = "messages" ∧ v = .array (request.turns.map Turn.entry) ∨
      k = "temperature" ∧ (∃ config x, request.config = some config ∧
        config.temperature = some x ∧ v = Codec.single.write x) ∨
      k = "max_tokens" ∧ (∃ config n, request.config = some config ∧
        config.maxOutputTokens = some n ∧ v = .int n) ∨
      k = "top_p" ∧ (∃ config x, request.config = some config ∧ config.topP = some x ∧
        v = Codec.single.write x) := by
  constructor
  · rintro (_ | _ | ⟨hconfig, hx⟩ | ⟨hconfig, hn⟩ | ⟨hconfig, hx⟩)
    · exact .inl ⟨rfl, rfl⟩
    · exact .inr (.inl ⟨rfl, rfl⟩)
    · exact .inr (.inr (.inl ⟨rfl, _, _, hconfig, hx, rfl⟩))
    · exact .inr (.inr (.inr (.inl ⟨rfl, _, _, hconfig, hn, rfl⟩)))
    · exact .inr (.inr (.inr (.inr ⟨rfl, _, _, hconfig, hx, rfl⟩)))
  · rintro (⟨rfl, rfl⟩ | ⟨rfl, rfl⟩ | ⟨rfl, _, _, hconfig, hx, rfl⟩ |
      ⟨rfl, _, _, hconfig, hn, rfl⟩ | ⟨rfl, _, _, hconfig, hx, rfl⟩)
    · exact .model
    · exact .messages
    · exact .temperature hconfig hx
    · exact .maxTokens hconfig hn
    · exact .topP hconfig hx

/-- The names of roles are in small letters. -/
theorem Role.isLower_name (role : Role) : role.name.toList.all Char.isLower = true := by
  cases role <;> decide

/-- The turns are written in their order. -/
theorem canonical_write_turns (turns : List Turn) :
    ((Codec.list Turn.codec).write turns).canonical = .array (turns.map Turn.entry) := by
  have hturn (t : Turn) : (Turn.codec.write t).canonical = t.entry := by
    obtain ⟨role, content⟩ := t
    rfl
  change (Json.array (turns.map Turn.codec.write)).canonical = _
  rw [canonical, canonicalItems_eq_map, List.map_map]
  exact congrArg Json.array (List.map_congr_left fun t _ => hturn t)

/-- A number is its own canonical form, and so is what stands for one that is not finite. -/
theorem canonical_write_single (x : Number.Single) :
    (Codec.single.write x).canonical = Codec.single.write x := by
  change (if x.isFinite then Json.float x.convert else .null).canonical =
    if x.isFinite then Json.float x.convert else .null
  split <;> rfl

/-- The member for a setting, if it is set. -/
def settingMember (name : String) (value? : Option Json) : List (String × Json) :=
  (value?.map (name, ·)).toList

/-- A setting has a member exactly if it is set. -/
theorem mem_settingMember_iff {name k : String} {value? : Option Json} {v : Json} :
    (k, v) ∈ settingMember name value? ↔ k = name ∧ value? = some v := by
  cases value? <;> simp [settingMember, eq_comm]

/-- The members of the body of a call, in the order in which they are set. -/
def Request.bodyMembers (request : Request) : List (String × Json) :=
  let config := request.config.getD .empty
  [("model", .string request.model), ("messages", (Codec.list Turn.codec).write request.turns)] ++
    settingMember "temperature" (config.temperature.map Codec.single.write) ++
    settingMember "max_tokens" (config.maxOutputTokens.map .int) ++
    settingMember "top_p" (config.topP.map Codec.single.write)

/-- No two members of the body of a call have one name. -/
theorem Request.nodup_bodyMembers (request : Request) :
    (request.bodyMembers.map Prod.fst).Nodup := by
  have hsetting (name : String) (value? : Option Json) :
      ((settingMember name value?).map Prod.fst).Sublist [name] := by
    cases value? <;> simp [settingMember]
  have hnames : ["model", "messages", "temperature", "max_tokens", "top_p"].Nodup := by decide
  refine hnames.sublist ?_
  simp only [bodyMembers, List.map_append]
  exact (((List.Sublist.refl ["model", "messages"]).append (hsetting _ _)).append
    (hsetting _ _)).append (hsetting _ _)

/-- What is set in a configuration that may be missing is set in one that is there. -/
theorem exists_config_iff {α : Type} {config? : Option GenerationConfig}
    {setting : GenerationConfig → Option α} (hempty : setting .empty = none) {x : α} :
    setting (config?.getD .empty) = some x ↔
      ∃ config, config? = some config ∧ setting config = some x := by
  cases config? <;> simp [hempty]

/-- The body of a call tells what it is to tell, each thing once. -/
theorem Request.exists_body_eq (request : Request) :
    ∃ members, request.body = .object members ∧ KeysIncrease members ∧
      ∀ k v, (k, v) ∈ members ↔ request.Tells k v := by
  refine ⟨canonicalMembers [] request.bodyMembers, rfl,
    (canonicalMembers_canonicalMembers _ [] .nil trivial).1, fun k v => ?_⟩
  rw [mem_canonicalMembers_iff request.nodup_bodyMembers]
  simp only [bodyMembers, List.mem_append, List.mem_cons, List.not_mem_nil, or_false,
    mem_settingMember_iff, Prod.mk.injEq, Option.map_eq_some_iff]
  constructor
  · rintro ⟨w, ((((⟨rfl, rfl⟩ | ⟨rfl, rfl⟩) | ⟨rfl, x, hx, rfl⟩) | ⟨rfl, n, hn, rfl⟩) |
      ⟨rfl, x, hx, rfl⟩), rfl⟩
    · exact .model
    · rw [canonical_write_turns]
      exact .messages
    · obtain ⟨config, hconfig, hx⟩ := (exists_config_iff rfl).mp hx
      rw [canonical_write_single]
      exact .temperature hconfig hx
    · obtain ⟨config, hconfig, hn⟩ := (exists_config_iff rfl).mp hn
      exact .maxTokens hconfig hn
    · obtain ⟨config, hconfig, hx⟩ := (exists_config_iff rfl).mp hx
      rw [canonical_write_single]
      exact .topP hconfig hx
  · rintro (_ | _ | ⟨hconfig, hx⟩ | ⟨hconfig, hn⟩ | ⟨hconfig, hx⟩)
    · exact ⟨_, .inl (.inl (.inl (.inl ⟨rfl, rfl⟩))), rfl⟩
    · exact ⟨_, .inl (.inl (.inl (.inr ⟨rfl, rfl⟩))), canonical_write_turns _⟩
    · exact ⟨_, .inl (.inl (.inr ⟨rfl, _, (exists_config_iff rfl).mpr ⟨_, hconfig, hx⟩, rfl⟩)),
        canonical_write_single _⟩
    · exact ⟨_, .inl (.inr ⟨rfl, _, (exists_config_iff rfl).mpr ⟨_, hconfig, hn⟩, rfl⟩), rfl⟩
    · exact ⟨_, .inr ⟨rfl, _, (exists_config_iff rfl).mpr ⟨_, hconfig, hx⟩, rfl⟩,
        canonical_write_single _⟩

/-! ### What a reply tells -/

/-- A reply tells a text: it is an object with a list of choices, of which the first one has a
message with the text as its content. -/
inductive FirstChoiceIs : Json → String → Prop
  | intro {members choice message : List (String × Json)} {others : List Json} {text : String} :
      ("choices", .array (.object choice :: others)) ∈ members →
      ("message", .object message) ∈ choice → ("content", .string text) ∈ message →
      FirstChoiceIs (.object members) text

/-- A canonical object has a member exactly if it is found there. -/
theorem member?_object_eq_some_iff {members : List (String × Json)}
    (h : (Json.object members).Canonical) {k : String} {v : Json} :
    (Json.object members).member? k = some v ↔ (k, v) ∈ members :=
  lookupEntry_eq_some_iff_of_keysIncrease h.1

/-- A member of a canonical object is canonical. -/
theorem canonical_of_mem {members : List (String × Json)} (h : (Json.object members).Canonical)
    {k : String} {v : Json} (hmem : (k, v) ∈ members) : v.Canonical :=
  canonicalMembers_iff.mp h.2 _ hmem

/-- The text of the first choice is where it is looked for. -/
theorem firstChoice_eq_ok_iff {v : Json} (hv : v.Canonical) {text : String} :
    firstChoice v = .ok text ↔ FirstChoiceIs v text := by
  constructor
  · intro h
    unfold firstChoice at h
    split at h
    · cases h
    · cases h
    next choice others hchoices =>
      split at h
      · cases h
      next t htext =>
        cases h
        obtain ⟨list, hlist, hitems⟩ := Option.bind_eq_some_iff.mp hchoices
        obtain ⟨members, rfl, hmember⟩ := member?_eq_some_iff.mp hlist
        cases items?_eq_some_iff.mp hitems
        obtain ⟨content, hcontent, hstring⟩ := Option.bind_eq_some_iff.mp htext
        cases text?_eq_some_iff.mp hstring
        obtain ⟨message, hmessage, hinner⟩ := Option.bind_eq_some_iff.mp hcontent
        obtain ⟨parts, rfl, hpart⟩ := member?_eq_some_iff.mp hmessage
        obtain ⟨fields, rfl, hfield⟩ := member?_eq_some_iff.mp hinner
        have hlistMem := (member?_object_eq_some_iff hv).mp hlist
        have hchoice : (Json.object parts).Canonical := (canonical_of_mem hv hlistMem).1
        have hmessageMem := (member?_object_eq_some_iff hchoice).mp hmessage
        have hfields := canonical_of_mem hchoice hmessageMem
        exact .intro hlistMem hmessageMem ((member?_object_eq_some_iff hfields).mp hinner)
  · rintro ⟨hchoices, hmessage, hcontent⟩
    have hchoice := (canonical_of_mem hv hchoices).1
    have hfields := canonical_of_mem hchoice hmessage
    simp only [firstChoice, (member?_object_eq_some_iff hv).mpr hchoices,
      (member?_object_eq_some_iff hchoice).mpr hmessage,
      (member?_object_eq_some_iff hfields).mpr hcontent, Option.bind_some, items?, text?]

/-- Where no text is found the reply is refused as such. -/
theorem exists_firstChoice_eq_error {v : Json} (h : ∀ text, firstChoice v ≠ .ok text) :
    ∃ message, firstChoice v = .error (.invalidResponse message) := by
  unfold firstChoice at h ⊢
  split
  · exact ⟨_, rfl⟩
  · exact ⟨_, rfl⟩
  next choice others hchoices =>
    split
    · exact ⟨_, rfl⟩
    next text htext =>
      simp only [hchoices, htext] at h
      exact absurd rfl (h text)

/-- Bytes are JSON if they are those of a text that is. -/
theorem jsonOf?_eq_some_iff {bytes : ByteArray} {v : Json} :
    jsonOf? bytes = some v ↔ ∃ text : String, bytes = text.toUTF8 ∧ Json.parse text = .ok v := by
  have hparse (text : String) : (Json.parse text).toOption = some v ↔ Json.parse text = .ok v := by
    cases Json.parse text <;> simp [Except.toOption]
  simp only [jsonOf?, Option.bind_eq_some_iff, Text.fromUTF8?_eq_some_iff, hparse]

/-- A text is read as a canonical value. -/
theorem canonical_of_parse {text : String} {v : Json} (h : Json.parse text = .ok v) :
    v.Canonical := by
  obtain ⟨⟨w, rest⟩, hread, hend⟩ := bind_eq_ok_iff.mp h
  obtain ⟨⟨u, left⟩, -, hcanonical⟩ := bind_eq_ok_iff.mp hread
  cases hcanonical
  dsimp only at hend
  split at hend
  next heq =>
    cases hend
    exact canonical_canonical u
  next => cases hend

/-! ### Messages -/

/-- A transport that does what the given one does and keeps a log of its calls, the latest last. -/
def Transport.logged (transport : Transport σ) : Transport (σ × List Call) where
  client := transport.client
  send call memory :=
    let (received, after) := transport.send call memory.1
    (received, after, memory.2 ++ [call])

/-- A network that does what the given one does and keeps a log of the messages, the latest last. -/
def Network.logged (network : Network σ) : Network (σ × List Http.Outgoing) where
  exchange message memory :=
    let (received, after) := network.exchange message memory.1
    (received, after, memory.2 ++ [message])

/-- A client reads addresses by the URL standard, escaping characters in its own way. -/
structure Client.FollowsStandard (client : Client) (escape : Char → List Char)
    (fits : String → Prop) : Prop where
  escapes : Http.Url.IsEscape escape
  /-- Addresses are on the web. -/
  web : ∀ {text url}, client.address text = .ok url → ∃ parts, Http.Url.parts? text = some parts
  /-- Whether a text is an address depends on its scheme and its host, if it is not too long for the
  client. -/
  authority : ∀ {text other parts below url}, Http.Url.parts? text = some parts →
    Http.Url.parts? other = some { parts with below := below } → client.address text = .ok url →
    fits other → ∃ url', client.address other = .ok url'
  /-- The path is the one that is named. -/
  path : ∀ {text parts url}, Http.Url.parts? text = some parts → client.address text = .ok url →
    url.path = Http.Url.resolvedPath escape parts.path

/-- No field names the encoding of a body. -/
def NamesNoCharset (fields : List Http.HeaderField) : Prop :=
  ∀ value, Http.fieldValue? "content-type" fields = some value →
    ¬"charset".toList <:+: value.toList.map Char.toLower

/-- A client takes a body whose encoding is not named for UTF-8, a mark of order at its front aside.
-/
def Client.DecodesUnnamed (client : Client) : Prop :=
  ∀ (fields : List Http.HeaderField) (text : String), NamesNoCharset fields →
    text.toList.head? ≠ some '\uFEFF' → client.text fields text.toUTF8 = text

/-- The names of the place below an address where completions are asked for. -/
def completionNames : List (List Char) := ["chat".toList, "completions".toList]

/-- The place below an address is an address itself, with a path of its own unless a query or a
fragment has begun. -/
theorem Client.FollowsStandard.exists_address {client : Client} {escape : Char → List Char}
    {fits : String → Prop} (h : client.FollowsStandard escape fits) {base : String} {url : Http.Url}
    (haddress : client.address base = .ok url) (hfits : fits (base ++ "/chat/completions"))
    (hlast : ∀ c, base.toList.getLast? = some c →
      Http.isSlash c = false ∧ Http.isPadding c = false) :
    ∃ target, client.address (base ++ "/chat/completions") = .ok target ∧
      (base.toList.any Http.endsPath = false →
        target.path = Http.Url.withoutLastSlash url.path ++ "/chat/completions") ∧
      (base.toList.any Http.endsPath = true → target.path = url.path) := by
  obtain ⟨parts, hparts⟩ := h.web haddress
  have hne : completionNames ≠ [] := List.cons_ne_nil _ _
  have hlower : (completionNames.all fun name => name.all Char.isLower) = true := by decide
  have hletters : ∀ name ∈ completionNames, ∀ c ∈ name, c.isLower = true := by
    simpa only [List.all_eq_true] using hlower
  have hsuffix : String.ofList (completionNames.flatMap ('/' :: ·)) = "/chat/completions" := by
    decide
  obtain ⟨below, happended, hbelow, hstays⟩ :=
    Http.Url.exists_parts?_append_names h.escapes hne hletters hparts hlast
  rw [hsuffix] at happended hbelow
  obtain ⟨target, htarget⟩ := h.authority hparts happended haddress hfits
  have hpath := h.path happended htarget
  rw [h.path hparts haddress]
  refine ⟨target, htarget, fun htext => hpath.trans (hbelow htext), fun htext => ?_⟩
  rw [hpath, hstays htext]

namespace Endpoint

/-- However many slashes end an address, it is kept without them. -/
theorem ofSettings_slashes {key base : String} (hkey : Text.allBlank key = false)
    (hbase : base.toList.getLast? ≠ some '/') (slashes : Nat) :
    ofSettings (some key) (some (base ++ String.ofList (List.replicate slashes '/'))) =
      .ok ⟨key, base⟩ := by
  have hdrop : ((base.toList ++ List.replicate slashes '/').reverse.dropWhile
      (· == '/')).reverse = base.toList := by
    rw [List.reverse_append, List.reverse_replicate, List.dropWhile_append_of_pos (by simp)]
    cases hlast : base.toList.reverse with
    | nil => rw [List.reverse_eq_nil_iff.mp hlast]; rfl
    | cons c cs =>
      have hne : c ≠ '/' := by
        rintro rfl
        rw [← List.head?_reverse, hlast] at hbase
        exact hbase rfl
      rw [List.dropWhile_cons_of_neg (by simpa using hne), ← hlast, List.reverse_reverse]
  simp only [ofSettings, Option.filter, hkey, Bool.not_false, if_true, Option.getD_some,
    String.toList_append, String.toList_ofList, hdrop, String.ofList_toList]

/-- What goes out for a call with a key that a header field can hold. -/
theorem outgoing_call {client : Client} {endpoint : Endpoint} {url : Http.Url}
    (haddress : client.address endpoint.url = .ok url)
    (hkey : Http.isFieldValue endpoint.key = true) (request : Request) :
    client.outgoing (endpoint.call request) = .ok ⟨.post, url,
      [("authorization", "Bearer " ++ endpoint.key), ("content-type", "application/json")],
      request.body.compactText.toUTF8⟩ := by
  have hbearer : Http.isFieldValue ("Bearer " ++ endpoint.key) = true := by
    rw [Http.isFieldValue, String.toList_append, List.all_append, Bool.and_eq_true]
    exact ⟨by decide, hkey⟩
  simp only [Client.outgoing, call, haddress]
  exact if_pos hbearer

/-- A request sends one message, and is answered with what this comes to. -/
theorem reply_over_logged {client : Client} {endpoint : Endpoint} {request : Request}
    {message : Http.Outgoing} (hmessage : client.outgoing (endpoint.call request) = .ok message)
    (network : Network σ) (memory : σ) (log : List Http.Outgoing) :
    (endpoint.model (client.over network.logged)).reply request (memory, log) =
      (client.outcome (network.exchange message memory).1, (network.exchange message memory).2,
        log ++ [message]) := by
  simp only [model, Client.over, hmessage, Network.logged]

end Endpoint

/-! ### Answers -/

namespace Client

variable (client : Client) {status : Nat} (fields : List Http.HeaderField) {bytes : ByteArray}

/-- A status other than success is a failure with the text of the body. -/
theorem answer_of_status (h : ¬(200 ≤ status ∧ status < 300)) :
    client.answer ⟨status, fields, .ok bytes⟩ =
      .error (.api "OpenAI" status (client.text fields bytes)) := by
  rw [answer, if_neg h]
  rfl

/-- A body that is no JSON is no answer. -/
theorem answer_of_not_json (h : 200 ≤ status ∧ status < 300)
    (hjson : ¬∃ text v, bytes = text.toUTF8 ∧ Json.parse text = .ok v) :
    client.answer ⟨status, fields, .ok bytes⟩ = .error (.transport (client.notJson bytes)) := by
  have hnone : jsonOf? bytes = none := by
    rw [Option.eq_none_iff_forall_ne_some]
    intro v hv
    obtain ⟨text, hbody, hparse⟩ := jsonOf?_eq_some_iff.mp hv
    exact hjson ⟨text, v, hbody, hparse⟩
  simp only [answer, if_pos h, hnone, Option.elim_none]

/-- A body that is JSON answers what its first choice tells. -/
theorem answer_of_json (h : 200 ≤ status ∧ status < 300) {text : String} {v : Json}
    (hparse : Json.parse text = .ok v) :
    client.answer ⟨status, fields, .ok text.toUTF8⟩ = firstChoice v := by
  simp only [answer, if_pos h, jsonOf?_eq_some_iff.mpr ⟨text, rfl, hparse⟩, Option.elim_some]

end Client

/-- **Completions.** There is an endpoint for a key that is not blank and an address that a client
reads, with any number of slashes at its end. If a header field can hold the key and the place below
the address is not too long, a request posts one message, with the key and a body that tells the
model, the turns in their order and the settings that are set, each thing once. It is posted below
the address; only if the address has a query or a fragment, it is these that are continued, and the
path is that of the address. A reply with a status other than success is a failure with this status
and the text of the body; one with a body that is no JSON tells nothing; of any other value the
answer is the text of its first choice, and where there is none the reply is refused as such. -/
theorem Endpoint.model_completes {client : Client} {escape : Char → List Char}
    {fits : String → Prop} (hreads : client.FollowsStandard escape fits)
    (hdecodes : client.DecodesUnnamed) {key base : String} {url : Http.Url}
    (hkey : Text.allBlank key = false) (hfield : Http.isFieldValue key = true)
    (haddress : client.address base = .ok url) (hfits : fits (base ++ "/chat/completions"))
    (hlast : ∀ c, base.toList.getLast? = some c →
      Http.isSlash c = false ∧ Http.isPadding c = false)
    (slashes : Nat) (request : Request) (network : Network σ) (memory : σ) :
    ∃ endpoint message members answer,
      Endpoint.ofSettings (some key) (some (base ++ String.ofList (List.replicate slashes '/'))) =
        .ok endpoint ∧
      (endpoint.model (client.over network.logged)).reply request (memory, []) =
        (answer, (network.exchange message memory).2, [message]) ∧
      message.method = .post ∧
      client.address (base ++ "/chat/completions") = .ok message.url ∧
      (base.toList.any Http.endsPath = false →
        message.url.path = Http.Url.withoutLastSlash url.path ++ "/chat/completions") ∧
      (base.toList.any Http.endsPath = true → message.url.path = url.path) ∧
      ("authorization", "Bearer " ++ key) ∈ message.fields ∧
      ("content-type", "application/json") ∈ message.fields ∧
      message.body = (Json.object members).compactText.toUTF8 ∧ KeysIncrease members ∧
      (∀ k v, (k, v) ∈ members ↔ request.Tells k v) ∧
      (∀ t ∈ request.turns, t.role.name.toList.all Char.isLower = true) ∧
      (∀ reason, (network.exchange message memory).1 = .error reason →
        answer = .error (.transport reason)) ∧
      ∀ status fields bytes, (network.exchange message memory).1 = .ok ⟨status, fields, .ok bytes⟩ →
        (¬(200 ≤ status ∧ status < 300) →
          answer = .error (.api "OpenAI" status (client.text fields bytes)) ∧
          ∀ text : String, bytes = text.toUTF8 → NamesNoCharset fields →
            text.toList.head? ≠ some '\uFEFF' → client.text fields bytes = text) ∧
        (200 ≤ status ∧ status < 300 →
          ((¬∃ text v, bytes = text.toUTF8 ∧ Json.parse text = .ok v) →
            answer = .error (.transport (client.notJson bytes))) ∧
          ∀ text v, bytes = text.toUTF8 → Json.parse text = .ok v →
            (∀ t, answer = .ok t ↔ FirstChoiceIs v t) ∧
            ((¬∃ t, FirstChoiceIs v t) →
              ∃ message, answer = .error (.invalidResponse message))) := by
  obtain ⟨target, htarget, hbelow, hstays⟩ := hreads.exists_address haddress hfits hlast
  obtain ⟨members, hbody, hkeys, hmembers⟩ := request.exists_body_eq
  have hslash : base.toList.getLast? ≠ some '/' := fun h => absurd (hlast _ h).1 (by decide)
  refine ⟨⟨key, base⟩, _, members, _, ofSettings_slashes hkey hslash slashes,
    reply_over_logged (outgoing_call htarget hfield request) network memory [], rfl, htarget,
    hbelow, hstays, List.mem_cons_self, List.mem_cons_of_mem _ List.mem_cons_self, hbody ▸ rfl,
    hkeys, hmembers, fun t _ => t.role.isLower_name, fun reason herror => ?_,
    fun status fields bytes hreply => ?_⟩
  · rw [herror]
    rfl
  · rw [hreply, Client.outcome]
    refine ⟨fun hstatus => ⟨client.answer_of_status fields hstatus, ?_⟩,
      fun hstatus => ⟨client.answer_of_not_json fields hstatus, ?_⟩⟩
    · rintro text rfl hfields hmark
      exact hdecodes fields text hfields hmark
    · rintro text v rfl hparse
      have hanswer := client.answer_of_json fields hstatus hparse
      have hiff (t : String) : firstChoice v = .ok t ↔ FirstChoiceIs v t :=
        firstChoice_eq_ok_iff (canonical_of_parse hparse)
      rw [hanswer]
      exact ⟨hiff, fun hnone => exists_firstChoice_eq_error fun t ht => hnone ⟨t, (hiff t).mp ht⟩⟩

/-- A client that reads addresses by the standard, in which no character is escaped. -/
def plainClient : Client where
  address text :=
    match Http.Url.parts? text with
    | none => .error "builder error"
    | some parts =>
      let query? := match parts.below.dropWhile (!Http.endsPath ·) with
        | '?' :: rest => some (String.ofList (rest.takeWhile (· != '#')))
        | _ => none
      .ok ⟨String.ofList parts.scheme, String.ofList parts.authority,
        Http.Url.resolvedPath (fun c => [c]) parts.path, query?⟩
  badField := "builder error"
  text _ bytes := (String.fromUTF8? bytes).getD ""
  notJson _ := "error decoding response body"

/-- This client reads addresses by the standard. -/
theorem followsStandard_plainClient : plainClient.FollowsStandard (fun c => [c]) fun _ => True where
  escapes := by
    refine ⟨fun _ _ => rfl, fun c => List.cons_ne_nil c [], fun c hc hmem => ?_⟩
    cases List.mem_singleton.mp hmem
    cases hc
  web {text url} h := by
    cases hparts : Http.Url.parts? text with
    | none => simp [plainClient, hparts] at h
    | some parts => exact ⟨parts, rfl⟩
  authority _ hother _ _ := by
    simp only [plainClient, hother]
    exact ⟨_, rfl⟩
  path hparts h := by
    simp only [plainClient, hparts] at h
    cases h
    rfl

/-- A request for a short answer. -/
def pingRequest : Request := ⟨"small", [⟨.user, "ping"⟩], some ⟨none, some 5, none⟩⟩

/-- The reply with one choice, as a value. -/
def pongReply : Json :=
  .object [("choices", .array [.object [("message", .object [("content", .string "pong")])]])]

/-- A network that brings the reply. -/
def pongNetwork : Network Unit where
  exchange _ memory :=
    (.ok ⟨200, [("content-type", "application/json")], .ok pongReply.compactText.toUTF8⟩, memory)

/-- The text of this reply is read as the value. -/
theorem parse_pongReply : Json.parse pongReply.compactText = .ok pongReply := by
  have hcanonical : pongReply.Canonical := by
    simp [pongReply, Canonical, CanonicalItems, CanonicalMembers]
  have hone {k : String} {v : Json} (h : v.IntegersOnly) : (Json.object [(k, v)]).IntegersOnly :=
    .object (List.forall_mem_singleton.mpr h)
  have hintegers : pongReply.IntegersOnly :=
    hone (.array (List.forall_mem_singleton.mpr (hone (hone (.string "pong")))))
  exact Codec.parse_textOf (Codec.givesBack_free hcanonical hintegers (by decide)).read

/-- The message is posted below the address, and the answer is the text of the choice. -/
theorem Endpoint.model_completes_ping :
    ∃ endpoint message,
      Endpoint.ofSettings (some "key") (some "http://localhost/v1//") = .ok endpoint ∧
      (endpoint.model (plainClient.over pongNetwork.logged)).reply pingRequest ((), []) =
        (.ok "pong", (), [message]) ∧
      message.method = .post ∧ message.url.path = "/v1/chat/completions" := by
  have haddress : plainClient.address "http://localhost/v1" =
      .ok ⟨"http", "localhost", "/v1", none⟩ := by decide +kernel
  have hchoice : FirstChoiceIs pongReply "pong" :=
    .intro List.mem_cons_self List.mem_cons_self List.mem_cons_self
  have hdecodes : plainClient.DecodesUnnamed := by
    intro fields text _ _
    simp only [plainClient, Text.fromUTF8?_toUTF8, Option.getD_some]
  have hkey : Text.allBlank "key" = false := by decide
  have hfield : Http.isFieldValue "key" = true := by decide
  have hlast : ∀ c, "http://localhost/v1".toList.getLast? = some c →
      Http.isSlash c = false ∧ Http.isPadding c = false := by
    rintro c ⟨⟩
    decide
  obtain ⟨endpoint, message, members, answer, hendpoint, hreply, hmethod, -, hpath, -, -, -, -, -,
      -, -, -, hanswer⟩ :=
    Endpoint.model_completes followsStandard_plainClient hdecodes hkey hfield haddress trivial
      hlast 2 pingRequest pongNetwork ()
  obtain ⟨-, hsuccess⟩ := hanswer _ _ _ rfl
  obtain ⟨hok, -⟩ := (hsuccess (by decide)).2 _ _ rfl parse_pongReply
  rw [(hok "pong").mpr hchoice] at hreply
  exact ⟨endpoint, message, hendpoint, hreply, hmethod, hpath (by decide)⟩

/-- A query is continued in place of the path: the message is not posted below the address. -/
theorem Endpoint.model_continues_query :
    ∃ url endpoint message,
      plainClient.address "http://localhost/v1?x=1" = .ok url ∧
      Endpoint.ofSettings (some "key") (some "http://localhost/v1?x=1") = .ok endpoint ∧
      (endpoint.model (plainClient.over pongNetwork.logged)).reply pingRequest ((), []) =
        (.ok "pong", (), [message]) ∧
      message.url = ⟨"http", "localhost", "/v1", some "x=1/chat/completions"⟩ ∧
      message.url.path ≠ Http.Url.withoutLastSlash url.path ++ "/chat/completions" := by
  have haddress : plainClient.address "http://localhost/v1?x=1" =
      .ok ⟨"http", "localhost", "/v1", some "x=1"⟩ := by decide +kernel
  have htarget : plainClient.address (⟨"key", "http://localhost/v1?x=1"⟩ : Endpoint).url =
      .ok ⟨"http", "localhost", "/v1", some "x=1/chat/completions"⟩ := by decide +kernel
  have hendpoint : Endpoint.ofSettings (some "key") (some "http://localhost/v1?x=1") =
      .ok ⟨"key", "http://localhost/v1?x=1"⟩ := by decide +kernel
  have hchoice : firstChoice pongReply = .ok "pong" := by decide +kernel
  have hpong := (plainClient.answer_of_json [("content-type", "application/json")]
    (by decide : 200 ≤ 200 ∧ 200 < 300) parse_pongReply).trans hchoice
  have hpath : "/v1" ≠ Http.Url.withoutLastSlash "/v1" ++ "/chat/completions" := by decide
  obtain ⟨message, hmessage, hurl⟩ : ∃ message,
      plainClient.outgoing (Endpoint.call ⟨"key", "http://localhost/v1?x=1"⟩ pingRequest) =
        .ok message ∧ message.url = ⟨"http", "localhost", "/v1", some "x=1/chat/completions"⟩ :=
    ⟨_, outgoing_call htarget (by decide) pingRequest, rfl⟩
  refine ⟨_, _, message, haddress, hendpoint, ?_, hurl, by rw [hurl]; exact hpath⟩
  rw [reply_over_logged hmessage pongNetwork () [], pongNetwork, Client.outcome, hpong]
  rfl

end AgentFlow.Chat
