import AgentFlow.Proofs.Api.Lasting
import AgentFlow.Proofs.Chain.Assembly
import AgentFlow.Proofs.Codec.Record

/-!
# Answered conversations

A conversation is answered by a chain of one step that repeats the last message. An entry that is no
message spoils the whole conversation, wherever it stands, and where there is nothing to repeat the
step fails. Else the reply is the message that the step has added: it tells the last content, and
nothing of the roles and of what was said before.
-/

namespace AgentFlow.Api

open Http Json Time

variable {σ : Type}

/-- An entry of a conversation is a message: an object with two strings, a role and a content. -/
inductive Says : Json → String → String → Prop
  | intro {members : List (String × Json)} {role content : String} :
      lookupEntry "role" members = some (.string role) →
      lookupEntry "content" members = some (.string content) →
      Says (.object members) role content

/-- An entry that is a message, as the message that is answered. -/
inductive SubmittedAs (entry : Json) : Message → Prop
  | intro {role content : String} : Says entry role content →
      SubmittedAs entry ⟨if role = "assistant" then "assistant" else "user", content, none⟩

/-- An entry is made a message exactly if it is one. -/
theorem messageOf?_eq_some_iff {entry : Json} {m : Message} :
    messageOf? entry = some m ↔ SubmittedAs entry m := by
  simp only [messageOf?, Option.bind_eq_bind, Option.bind_eq_some_iff, text?_eq_some_iff,
    exists_eq_right, Option.pure_def, Option.some.injEq]
  constructor
  · rintro ⟨role, hrole, content, hcontent, rfl⟩
    obtain ⟨members, rfl, hrole⟩ := member?_eq_some_iff.mp hrole
    exact .intro (.intro hrole hcontent)
  · rintro ⟨⟨hrole, hcontent⟩⟩
    exact ⟨_, hrole, _, hcontent, rfl⟩

/-- Entries are made messages exactly if each of them is one. -/
theorem mapM_messageOf?_eq_some_iff {entries : List Json} {messages : List Message} :
    entries.mapM messageOf? = some messages ↔ List.Forall₂ SubmittedAs entries messages := by
  induction entries generalizing messages with
  | nil => simp [eq_comm]
  | cons entry rest ih =>
    simp only [List.mapM_cons, Option.bind_eq_bind, Option.bind_eq_some_iff, Option.pure_def,
      Option.some.injEq, messageOf?_eq_some_iff, ih]
    constructor
    · rintro ⟨m, hm, others, hothers, rfl⟩
      exact .cons hm hothers
    · rintro (_ | ⟨hm, hothers⟩)
      exact ⟨_, hm, _, hothers, rfl⟩

/-- Entries are submitted as some messages exactly if all of them are messages. -/
theorem exists_submittedAs_iff {entries : List Json} :
    (∃ messages, List.Forall₂ SubmittedAs entries messages) ↔
      ∀ entry ∈ entries, ∃ role content, Says entry role content := by
  constructor
  · rintro ⟨messages, h⟩
    induction h with
    | nil => exact List.forall_mem_nil _
    | cons hentry _ ih =>
      obtain ⟨hsay⟩ := hentry
      exact List.forall_mem_cons.mpr ⟨⟨_, _, hsay⟩, ih⟩
  · intro h
    induction entries with
    | nil => exact ⟨[], .nil⟩
    | cons entry rest ih =>
      obtain ⟨⟨role, content, hsay⟩, hrest⟩ := List.forall_mem_cons.mp h
      obtain ⟨messages, hmessages⟩ := ih hrest
      exact ⟨_, .cons (.intro hsay) hmessages⟩

/-! ### The chain that answers -/

/-- The step that answers a conversation. -/
def conversationNode (now : Instant) : Node :=
  ⟨Node.idAt 0 (conversant now).name, conversant now, ""⟩

/-- The id of the step, in plain. -/
theorem id_conversationNode (now : Instant) : (conversationNode now).id = "step_1_agent" := by
  have hid : Node.idAt 0 "agent" = "step_1_agent" := by decide
  exact hid

/-- The message that a conversation is continued with. -/
def echoOf (content : String) : Message := .ofAgent "agent" ("Echo: " ++ content)

/-- The chain that answers a conversation has one step. -/
theorem conversationChain_eq (now : Instant) :
    ∃ chain, conversationChain now = .ok chain ∧ chain.nodes = [conversationNode now] := by
  have hids : ([conversationNode now].map Node.id).Nodup := List.nodup_singleton _
  obtain ⟨chain, hchain, -, hnodes⟩ := Chain.assemble_of_nodup (List.cons_ne_nil _ _) hids
  exact ⟨chain, hchain, hnodes⟩

/-- Where there is no message the step fails. -/
theorem converse_nil (now : Instant) :
    converse now [] = .error (.stepFailed "step_1_agent" "No message to reply to") := by
  obtain ⟨chain, hchain, hnodes⟩ := conversationChain_eq now
  have hfirst : chain.nodes = ([] : List Performance).map (·.node) ++ [conversationNode now] :=
    hnodes
  have hrun : chain.run (.echo : Worker Unit) (.ofMessages []) () =
      (.error (.stepFailed (conversationNode now).id "No message to reply to"), ()) :=
    Chain.run_of_fail hfirst .nil rfl
  rw [id_conversationNode] at hrun
  rw [converse, hchain]
  exact congrArg Prod.fst hrun

/-- Where there are messages the step adds one that repeats the last of them. -/
theorem run_conversation {now : Instant} {chain : Chain}
    (hnodes : chain.nodes = [conversationNode now]) (earlier : List Message) (last : Message) :
    ∃ state, chain.run (.echo : Worker Unit) (.ofMessages (earlier ++ [last])) () =
        (.ok state, ()) ∧
      state.messages = earlier ++ [last] ++ [echoOf last.content] := by
  let performed : List Performance := [⟨conversationNode now, "Echo: " ++ last.content⟩]
  let initial : ExecutionState := .ofMessages (earlier ++ [last])
  have hlast : initial.lastMessage? = some last := List.getLast?_concat
  have hsucceed : Succeed (.echo : Worker Unit) performed initial () () := by
    refine .cons ?_ .nil
    simp only [Worker.echo, Worker.stateless, hlast]
    rfl
  have hperformed : performed.map (·.node) = chain.nodes := hnodes.symm
  exact ⟨_, Chain.run_of_succeed hperformed hsucceed, messages_of_performed initial performed⟩

/-! ### The answer -/

/-- The response where some entry is no message. -/
def malformed : Response := .failure 400 "Invalid message format"

/-- The response where there is nothing to repeat. -/
def nothingToRepeat : Response :=
  .failure 500
    "Workflow execution failed: Step 'step_1_agent' failed: No message to reply to"

/-- The response that tells a reply. -/
def replied (content : String) : Response :=
  .json 200 (.object [("role", .string "assistant"), ("content", .string content)])

/-- All entries of a conversation are messages. -/
def AllSay (entries : List Json) : Prop :=
  ∀ entry ∈ entries, ∃ role content, Says entry role content

/-- The reply to a conversation with an entry that is no message. -/
theorem reply_of_not_allSay {entries : List Json} (h : ¬ AllSay entries) (now : Instant) :
    reply now ⟨entries⟩ = malformed := by
  have hnone : entries.mapM messageOf? = none := by
    rw [Option.eq_none_iff_forall_ne_some]
    intro messages hmessages
    exact h (exists_submittedAs_iff.mp ⟨messages, mapM_messageOf?_eq_some_iff.mp hmessages⟩)
  rw [reply, hnone]
  rfl

/-- The reply to a conversation without entries. -/
theorem reply_nil (now : Instant) : reply now ⟨[]⟩ = nothingToRepeat := by
  have hnone : ([] : List Json).mapM messageOf? = some [] := rfl
  rw [reply, hnone]
  simp only [converse_nil]
  rfl

/-- The reply to a conversation of messages is the one that the chain adds to them. -/
theorem reply_concat {earlier : List Json} {last : Json} {role content : String}
    (hall : AllSay (earlier ++ [last])) (hlast : Says last role content) (now : Instant) :
    ∃ chain submitted state, conversationChain now = .ok chain ∧
      List.Forall₂ SubmittedAs (earlier ++ [last]) submitted ∧
      chain.run (.echo : Worker Unit) (.ofMessages submitted) () = (.ok state, ()) ∧
      state.messages = submitted ++ [echoOf content] ∧
      reply now ⟨earlier ++ [last]⟩ = replied (echoOf content).content := by
  obtain ⟨messages, hmessages⟩ := exists_submittedAs_iff.mpr fun entry hentry =>
    hall entry (List.mem_append_left _ hentry)
  let m : Message := ⟨if role = "assistant" then "assistant" else "user", content, none⟩
  have hsubmitted : List.Forall₂ SubmittedAs (earlier ++ [last]) (messages ++ [m]) :=
    List.rel_append hmessages (.cons (.intro hlast) .nil)
  obtain ⟨chain, hchain, hnodes⟩ := conversationChain_eq now
  obtain ⟨state, hrun, hstate⟩ := run_conversation hnodes messages m
  refine ⟨chain, _, state, hchain, hsubmitted, hrun, hstate, ?_⟩
  have hconverse : converse now (messages ++ [m]) = .ok state := by
    rw [converse, hchain]
    exact congrArg Prod.fst hrun
  have hadded : state.lastMessage? = some (echoOf content) := by
    rw [ExecutionState.lastMessage?, hstate]
    exact List.getLast?_concat
  rw [reply, mapM_messageOf?_eq_some_iff.mpr hsubmitted]
  simp only [hconverse, hadded]
  rfl

/-- What a conversation is continued with was not submitted: it has a name. -/
theorem echoOf_notMem {entries : List Json} {submitted : List Message}
    (h : List.Forall₂ SubmittedAs entries submitted) (content : String) :
    echoOf content ∉ submitted := by
  induction h with
  | nil => exact List.not_mem_nil
  | cons hentry _ ih =>
    rw [List.mem_cons, not_or]
    refine ⟨?_, ih⟩
    cases hentry with
    | intro _ => exact fun heq => nomatch congrArg Message.name heq

/-! ### Requests -/

/-- A request posts the entries of a conversation. -/
structure PostsConversation (r : Request) (entries : List Json) : Prop where
  method : r.method = .post
  path : Resource.chat.LiesAt r.path
  body : requestedBody Conversation.codec r = .ok ⟨entries⟩

/-- A request that posts a conversation is answered with its reply and changes nothing. -/
theorem answer_of_postsConversation {r : Request} {entries : List Json}
    (h : PostsConversation r entries) (worker : Worker σ) (now : Instant) (store : Store)
    (memory : σ) :
    answer worker now r store memory = (reply now ⟨entries⟩, store, memory) := by
  have hasks : Action.ofRequest r = .ok (.chat ⟨entries⟩) := by
    rw [Action.ofRequest, Resource.ofPath?_eq_some_iff.mpr h.path]
    simp only [Resource.action, h.method, Method.answered]
    exact map_eq_ok_iff.mpr ⟨_, h.body, rfl⟩
  have hwhole : r.method ≠ .head := by simp [h.method]
  simp only [answer, hasks, Action.perform, if_neg hwhole]

/-- Entries are posted as they are if they are canonical, their numbers are integers, they do not
nest too deep and are not too long. -/
theorem PostsConversation.of_textOf {r : Request} {entries : List Json} (hmethod : r.method = .post)
    (hpath : Resource.chat.LiesAt r.path)
    (hannounced : (r.field? "content-type").any announcesJson = true)
    (hbody : r.body = (Conversation.codec.textOf ⟨entries⟩).toUTF8)
    (hsize : r.body.size ≤ maxBodySize)
    (hentries : ∀ v ∈ entries, v.Canonical ∧ v.IntegersOnly ∧ v.nesting ≤ 125) :
    PostsConversation r entries where
  method := hmethod
  path := hpath
  body := by
    have hback : (Codec.list Codec.free).GivesBack 126 entries := Codec.givesBack_list fun v hv =>
      Codec.givesBack_free (hentries v hv).1 (hentries v hv).2.1 (hentries v hv).2.2
    have hrecord : Conversation.codec.GivesBack Json.maxNesting ⟨entries⟩ :=
      Record.givesBack (.shown hback (by decide) .nil rfl) rfl
    exact requestedBody_eq_ok_iff.mpr
      ⟨hannounced, hsize, _, hbody, Codec.parse_textOf hrecord.read⟩

/-- A conversation that is posted without any messages has no entries. -/
theorem entries_eq_nil_of_missing {r : Request} {entries : List Json}
    (h : PostsConversation r entries) {members : List (String × Json)}
    (hbody : r.body = (Json.object members).compactText.toUTF8)
    (hmissing : ∀ m ∈ members, m.1 ≠ "messages" ∧ m.2.IntegersOnly) : entries = [] := by
  have hunknown : ∀ m ∈ members, m.1 ∉ Conversation.record.fields.names ∧ m.2.IntegersOnly :=
    fun m hm => ⟨mt List.mem_singleton.mp (hmissing m hm).1, (hmissing m hm).2⟩
  have hparse : Conversation.codec.parse (Json.object members).compactText = .ok ⟨[]⟩ :=
    Record.parse_of_unknown (x := ([], ())) rfl hunknown
  obtain ⟨-, -, text, htext, hread⟩ := requestedBody_eq_ok_iff.mp h.body
  have hsame : text = (Json.object members).compactText :=
    String.toByteArray_inj.mp (htext.symm.trans hbody)
  rw [hsame, hparse] at hread
  exact congrArg Conversation.entries (Except.ok.inj hread).symm

/-- The status that a conversation is answered with. -/
theorem status_reply (entries : List Json) (now : Instant) :
    (¬AllSay entries ∧ (reply now ⟨entries⟩).status = 400) ∨
      (entries = [] ∧ (reply now ⟨entries⟩).status = 500) ∨
      (AllSay entries ∧ entries ≠ [] ∧ (reply now ⟨entries⟩).status = 200) := by
  by_cases hall : AllSay entries
  · rcases List.eq_nil_or_concat entries with rfl | ⟨earlier, last, rfl⟩
    · exact .inr (.inl ⟨rfl, by rw [reply_nil]; rfl⟩)
    · rw [List.concat_eq_append] at hall ⊢
      obtain ⟨role, content, hlast⟩ :=
        hall last (List.mem_append_right _ (List.mem_singleton_self _))
      obtain ⟨_, _, _, -, -, -, -, hreply⟩ := reply_concat hall hlast now
      exact .inr (.inr ⟨hall, List.concat_ne_nil _ _, by rw [hreply]; rfl⟩)
  · exact .inl ⟨hall, by rw [reply_of_not_allSay hall]; rfl⟩

/-- **Conversations.** A conversation with an entry that is no message is refused, wherever the
entry stands; one without entries, as where the body names no messages, has nothing to repeat.
Any other one is answered with the content of its last entry, whatever the roles are and whatever
was said before. The reply is the message that the chain adds, which was not among those that were
submitted, so that conversations that end alike are answered alike. -/
theorem answer_conversation {r : Request} {entries : List Json} (h : PostsConversation r entries)
    (worker : Worker σ) (now : Instant) (store : Store) (memory : σ) :
    let answered := (answer worker now r store memory).1
    (answered.status = 400 ↔ ¬AllSay entries) ∧ (¬AllSay entries → answered = malformed) ∧
    (answered.status = 500 ↔ entries = []) ∧ (entries = [] → answered = nothingToRepeat) ∧
    (∀ members, r.body = (Json.object members).compactText.toUTF8 →
      (∀ m ∈ members, m.1 ≠ "messages" ∧ m.2.IntegersOnly) → entries = []) ∧
    ∀ earlier last role content, entries = earlier ++ [last] → AllSay entries →
      Says last role content →
      answered = replied ("Echo: " ++ content) ∧
      (∃ chain submitted added state, conversationChain now = .ok chain ∧
        List.Forall₂ SubmittedAs entries submitted ∧
        chain.run (.echo : Worker Unit) (.ofMessages submitted) () = (.ok state, ()) ∧
        state.messages = submitted ++ [added] ∧ added ∉ submitted ∧
        answered = replied added.content) ∧
      ∀ (r' : Request) (earlier' : List Json) (last' : Json) (role' : String) (now' : Instant)
        (store' : Store) (memory' : σ), PostsConversation r' (earlier' ++ [last']) →
        AllSay (earlier' ++ [last']) → Says last' role' content →
        (answer worker now' r' store' memory').1 = answered := by
  intro answered
  have hanswered : answered = reply now ⟨entries⟩ :=
    congrArg Prod.fst (answer_of_postsConversation h worker now store memory)
  rw [hanswered]
  refine ⟨?_, fun hbad => reply_of_not_allSay hbad now, ?_, ?_,
    fun members hbody hmissing => entries_eq_nil_of_missing h hbody hmissing, ?_⟩
  · rcases status_reply entries now with ⟨hbad, hstatus⟩ | ⟨rfl, hstatus⟩ | ⟨hall, -, hstatus⟩
    · exact iff_of_true hstatus hbad
    · exact iff_of_false (by rw [hstatus]; decide) (not_not_intro (List.forall_mem_nil _))
    · exact iff_of_false (by rw [hstatus]; decide) (not_not_intro hall)
  · rcases status_reply entries now with ⟨hbad, hstatus⟩ | ⟨hnil, hstatus⟩ | ⟨-, hne, hstatus⟩
    · refine iff_of_false (by rw [hstatus]; decide) ?_
      rintro rfl
      exact hbad (List.forall_mem_nil _)
    · exact iff_of_true hstatus hnil
    · exact iff_of_false (by rw [hstatus]; decide) hne
  · rintro rfl
    exact reply_nil now
  · rintro earlier last role content rfl hall hlast
    obtain ⟨chain, submitted, state, hchain, hsubmitted, hrun, hstate, hreply⟩ :=
      reply_concat hall hlast now
    refine ⟨hreply, ⟨chain, submitted, echoOf content, state, hchain, hsubmitted, hrun, hstate,
      echoOf_notMem hsubmitted content, hreply⟩, ?_⟩
    intro r' earlier' last' role' now' store' memory' h' hall' hlast'
    obtain ⟨_, _, _, -, -, -, -, hreply'⟩ := reply_concat hall' hlast' now'
    rw [answer_of_postsConversation h', hreply, hreply']

/-- An entry of a conversation, with a name. -/
def spoken (content name role : String) : Json :=
  .object [("content", .string content), ("name", .string name), ("role", .string role)]

/-- A conversation of two messages, the latter by neither a user nor the assistant. -/
def greeting : Conversation :=
  ⟨[spoken "hello" "Ann" "assistant", spoken "ping" "Bob" "sysop"]⟩

/-- The conversation is answered with its latter message. -/
theorem answer_conversation_greeting :
    let r : Request := ⟨.post, "/api/v1/chat", [("content-type", "application/json")],
      (Conversation.codec.textOf greeting).toUTF8⟩
    PostsConversation r greeting.entries ∧ AllSay greeting.entries ∧
    (answer (.echo : Worker Unit) rehearsalTime r (Store.ofHistory []) ()).1 =
      replied "Echo: ping" := by
  intro r
  have hpath : r.path = "/api/v1/chat" := by decide +kernel
  have hwritable (content name role : String) : (spoken content name role).Canonical ∧
      (spoken content name role).IntegersOnly ∧ (spoken content name role).nesting ≤ 125 := by
    have hkeys : ["content", "name", "role"].Pairwise (· < ·) := by decide
    have hdepth : 1 ≤ 125 := by decide
    refine ⟨⟨List.pairwise_map.mp hkeys, trivial, trivial, trivial, trivial⟩, .object ?_, hdepth⟩
    simp only [List.forall_mem_cons]
    exact ⟨.string _, .string _, .string _, List.forall_mem_nil _⟩
  have hposts : PostsConversation r greeting.entries := by
    refine .of_textOf rfl hpath (by decide +kernel) rfl (by decide +kernel) ?_
    simp only [greeting, List.forall_mem_cons]
    exact ⟨hwritable _ _ _, hwritable _ _ _, List.forall_mem_nil _⟩
  have hall : AllSay greeting.entries := by
    simp only [AllSay, greeting, List.forall_mem_cons]
    exact ⟨⟨_, _, .intro rfl rfl⟩, ⟨_, _, .intro rfl rfl⟩, List.forall_mem_nil _⟩
  obtain ⟨-, -, -, -, -, hlast⟩ :=
    answer_conversation hposts (.echo : Worker Unit) rehearsalTime (Store.ofHistory []) ()
  obtain ⟨hanswer, -⟩ :=
    hlast [spoken "hello" "Ann" "assistant"] _ "sysop" "ping" rfl hall (.intro rfl rfl)
  exact ⟨hposts, hall, hanswer⟩

end AgentFlow.Api
