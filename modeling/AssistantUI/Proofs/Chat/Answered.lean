import AssistantUI.Proofs.Agent
import AssistantUI.Proofs.Chat.Operations
import AssistantUI.Proofs.Service.History

/-!
# Messages that are answered at hand

Where the service is at hand and its settings can be read, an exchange has no way to fail. The
message and the conversation are given, the agent answers any text, and all that it suggests can be
built and is read back as it was built. So of the four ways in which an exchange can end only the
first is left (`send_answered`), and the one thing that is decided by the text of the message is
whether something is shown afterwards.

That a conversation is given is due to the chat: whatever is asked of it, its conversations have
names that are not empty (`lasts_named`).
-/

namespace AssistantUI

/-! ## What the agent says -/

namespace Agent

/-- A reply suggests what the rule that answers the message has for it, and an echo nothing. -/
theorem suggestion_respond (message : String) :
    (respond message).suggestion = (rule? message).bind fun r => r.reply.suggestion := by
  unfold respond
  cases rule? message <;> rfl

/-- All that is suggested can be built, and is read back as it was built. -/
theorem built_of_suggestion {message : String} {r : Rule} (hr : rule? message = some r)
    {ps : List (String × Json)} (h : r.reply.suggestion = some ps) :
    ∃ type root, Dict.find "type" ps = some (.str type) ∧ type ≠ "" ∧
      Build.tree (.str type) (.obj ps) = .ok root ∧
      Definition.parse root.envelope = .ok (some (.tree root), []) := by
  have hmem : ps ∈ rules.filterMap fun r => r.reply.suggestion :=
    List.mem_filterMap.mpr ⟨r, List.mem_of_find?_eq_some hr, h⟩
  have hall : rules.filterMap (fun r => r.reply.suggestion) =
      [contactForm, contactForm, [("type", .str "dashboard")],
        [("type", .str "chart"), ("chartType", .str "bar")], [("type", .str "table")]] := rfl
  rw [hall] at hmem
  simp only [List.mem_cons, List.not_mem_nil, or_false] at hmem
  rcases hmem with rfl | rfl | rfl | rfl | rfl
  · exact ⟨"form", _, rfl, by decide, rfl, rfl⟩
  · exact ⟨"form", _, rfl, by decide, rfl, rfl⟩
  · exact ⟨"dashboard", _, rfl, by decide, rfl, rfl⟩
  · exact ⟨"chart", _, rfl, by decide, rfl, rfl⟩
  · exact ⟨"table", _, rfl, by decide, rfl, rfl⟩

theorem Reply.orElse_metadata (r : Reply) : r.metadata.orElse (.obj []) = r.metadata := by
  unfold Reply.metadata
  cases r.suggestion <;> rfl

theorem rule_of_suggestion {message : String} {ps : List (String × Json)}
    (h : (respond message).suggestion = some ps) :
    ∃ r, rule? message = some r ∧ r.reply.suggestion = some ps := by
  rw [suggestion_respond] at h
  exact Option.bind_eq_some_iff.mp h

theorem head?_content_echo (message : String) :
    (echo message).content.toList.head? = some 'I' := by
  have hstart : "I've processed your message: \"".toList.head? = some 'I' := by decide +kernel
  show ("I've processed your message: \"" ++ message ++ "\". In a full implementation, " ++
    "I would use an LLM or other AI service to generate a more contextual response.").toList.head? =
      _
  simp only [String.toList_append, List.head?_append, hstart, Option.some_or]

/-- The agent never says that something went wrong. -/
theorem content_respond_ne (message : String) :
    (respond message).content ≠ Chat.sendError ∧
      (respond message).content ≠ Chat.generateError := by
  unfold respond
  cases hr : rule? message with
  | some r =>
    have hrules : ∀ r ∈ rules,
        r.reply.content ≠ Chat.sendError ∧ r.reply.content ≠ Chat.generateError := by
      decide +kernel
    exact hrules r (List.mem_of_find?_eq_some hr)
  | none =>
    -- an echo and an error start differently
    have hdiffer (error : String) (herror : error.toList.head? = some 'S') :
        (echo message).content ≠ error := by
      intro h
      have hhead := head?_content_echo message
      rw [h, herror] at hhead
      exact absurd hhead (by decide)
    exact ⟨hdiffer _ (by decide +kernel), hdiffer _ (by decide +kernel)⟩

end Agent

/-! ## The service at hand -/

namespace Service

/-- The members of the answer to a message. -/
def Processed.members (p : Processed) : List (String × Json) := p.toJson.membersOrNone

/-- The state after the texts of a user and of the agent were stored. -/
def State.exchange (settings : Settings) (supply : Supply) (s : State Documents)
    (conversation text : String) : State Documents :=
  (s.store settings.messagesTable (userMessage (supply.id s.ids) (.str conversation) anonymous
    (.str text) (supply.time s.times))).store settings.messagesTable
      (agentMessage (supply.id (s.ids + 1)) (.str conversation) anonymous (Agent.respond text)
        (supply.time (s.times + 1)))

section

variable (settings : Settings) (supply : Supply) (s : State Documents) (conversation text : String)

theorem State.messages_exchange :
    (s.exchange settings supply conversation text).messages settings = s.messages settings ++
      [userMessage (supply.id s.ids) (.str conversation) anonymous (.str text)
          (supply.time s.times),
        agentMessage (supply.id (s.ids + 1)) (.str conversation) anonymous (Agent.respond text)
          (supply.time (s.times + 1))] := by
  rw [exchange, messages_store, messages_store, List.append_assoc]
  rfl

theorem State.components_exchange :
    (s.exchange settings supply conversation text).components settings = s.components settings := by
  rw [exchange, components_store_message, components_store_message]

theorem State.table_exchange_of_ne {name : Key} (h : name ≠ .text settings.messagesTable) :
    (s.exchange settings supply conversation text).documents.table name =
      s.documents.table name := by
  rw [exchange, table_store_of_ne _ h, table_store_of_ne _ h]

end

end Service

namespace Client

variable (settings : Settings) (supply : Supply)

/-- A text for a conversation is answered, if the settings can be read. -/
theorem runIn_send_ofService {limit : Int} (hlimit : settings.historyLimit = .ok limit)
    {text conversation : String} (htext : text ≠ "") (hconversation : conversation ≠ "")
    (s : Service.State Documents) :
    ((ofService (Service.inMemory settings supply)).send (.str text) (.str conversation)
      Service.anonymous).runIn s =
    (.ok (Service.Processed.toJson ⟨supply.id (s.ids + 1), (Agent.respond text).content,
      (Agent.respond text).metadata, supply.time (s.times + 1)⟩),
      s.exchange settings supply conversation text) := by
  have hgiven : ((Json.str text).truthy && (Json.str conversation).truthy) = true := by
    simp [Json.truthy, htext, hconversation]
  unfold ofService
  dsimp only
  rw [Act.runIn_return, Service.runIn_process settings supply _ s hgiven, hlimit]
  rfl

/-- What can be built is built. -/
theorem runIn_generate_ofService {type : String} (htype : type ≠ "")
    {ps : List (String × Json)} {root : Node} (hbuilt : Build.tree (.str type) (.obj ps) = .ok root)
    (s : Service.State Documents) :
    ((ofService (Service.inMemory settings supply)).generate (.str type) (.obj ps)
      Service.anonymous).runIn s =
    (.ok (Service.Generated.toJson ⟨supply.id s.ids, .str type, root.envelope,
        supply.time s.times⟩),
      s.store settings.componentsTable (Service.component (supply.id s.ids) (.str type)
        Service.anonymous (.obj ps) root.envelope (supply.time s.times))) := by
  have hgiven : (Json.str type).truthy = true := by simp [Json.truthy, htype]
  have hparameters : (Json.obj ps).orElse (.obj []) = .obj ps := by cases ps <;> rfl
  have henvelope : Build.envelope (.str type) ((Json.obj ps).orElse (.obj [])) =
      .ok root.envelope := by
    rw [hparameters, Build.envelope, hbuilt]
    rfl
  unfold ofService
  dsimp only
  rw [Act.runIn_return, Service.runIn_generate settings supply _ _ s hgiven, henvelope]
  rfl

end Client

/-! ## Steps of an exchange that goes well -/

namespace Chat

variable {names : Names} {s : Session Chat}

/-- The session after a reply was added. -/
def replied (names : Names) (number : Nat) (p : Service.Processed) (s : Session Chat) :
    Session Chat :=
  remember (fun c => c.add (c.replyMessage names p.members (.str p.content)))
    (remember (fun c => c.deliver number .sent) s)

/-- What the metadata of a reply lead to: without a suggestion what is shown is taken down. -/
theorem runIn_afterReply_metadata (r : Agent.Reply) (s : Session Chat) :
    (afterReply r.metadata).runIn s =
      match r.suggestion with
      | none => (.ok none, s.unmount)
      | some ps => (.ok (some (.obj ps)), s) := by
  unfold Agent.Reply.metadata
  cases r.suggestion with
  | none => rfl
  | some ps => cases ps <;> rfl

theorem runIn_takeReply_processed {p : Service.Processed} {r : Agent.Reply}
    (h : p.metadata = r.metadata) (names : Names) (number : Nat) (s : Session Chat) :
    (takeReply names number (.ok p.toJson)).runIn s =
      match r.suggestion with
      | none => (.ok none, (replied names number p s).unmount)
      | some ps => (.ok (some (.obj ps)), replied names number p s) := by
  have hcontent : Dict.find "content" p.members = some (.str p.content) := rfl
  have hmetadata : (Json.member p.members "metadata").orElse (.obj []) = r.metadata := by
    rw [← r.orElse_metadata, ← h]
    rfl
  have htaken := runIn_takeReply_some hcontent names number s
  rw [hmetadata, runIn_afterReply_metadata] at htaken
  exact htaken

/-- A reply that suggests nothing ends the exchange. -/
theorem reply_plain {p : Service.Processed} {r : Agent.Reply} (h : p.metadata = r.metadata)
    (hnone : r.suggestion = none) (names : Names) (number : Nat) (s : Session Chat) :
    Exchange.reply names number (.ok p.toJson) s =
      (.ended .sent, remember (fun c => { c with loading := false })
        (replied names number p s).unmount) := by
  unfold Exchange.reply
  rw [runIn_takeReply_processed h, hnone]
  rfl

/-- A reply that suggests something leads to the request for it. -/
theorem reply_suggesting {p : Service.Processed} {r : Agent.Reply} (h : p.metadata = r.metadata)
    {ps : List (String × Json)} (hsome : r.suggestion = some ps) {type : Json}
    (htype : Dict.find "type" ps = some type) (names : Names) (number : Nat) (s : Session Chat) :
    Exchange.reply names number (.ok p.toJson) s =
      (.asks (.interface type (.obj ps)), replied names number p s) := by
  unfold Exchange.reply
  rw [runIn_takeReply_processed h, hsome]
  dsimp only
  have hrequest : interfaceRequest (.obj ps) = .ok (.interface type (.obj ps)) := by
    show Except.ok (Request.interface ((Dict.find "type" ps).getD (.str "")) (.obj ps)) = _
    rw [htype]
    rfl
  rw [hrequest]

/-- A tree that is read back as it was built is mounted. -/
theorem shown_generated {g : Service.Generated} {root : Node}
    (h : Definition.parse g.components = .ok (some (.tree root), []))
    (hnull : (Mountable.json g.components).isNull = false) (names : Names) (number : Nat)
    (s : Session Chat) :
    Exchange.shown names number (.ok g.toJson) s =
      (.sent, remember (fun c => { c with loading := false })
        (s.unmount.start (Mount.start (names.mount s.mounts.length) (some (.tree root)) []))) := by
  have hmount : (showInterface names (.ok g.toJson)).runIn s = (.ok (some s.mounts.length),
      s.unmount.start (Mount.start (names.mount s.mounts.length) (some (.tree root)) [])) :=
    Session.mount_of_ok (host names) s hnull h
  unfold Exchange.shown
  rw [hmount]
  rfl

/-! ## Sending a text -/

/-- The message that a text becomes, apart from how far it has come. -/
def typed (c : Chat) (names : Names) (text : String) : Message :=
  c.compose names (.str text) .user none

/-- The session in which a text waits for its reply. -/
def awaiting (names : Names) (text : String) (s : Session Chat) : Session Chat :=
  remember (fun c =>
    { c.add ((c.typed names text).delivered .sending) with loading := true }) s

/-- The message of the user and the reply are added, and nothing else. -/
theorem extends_replied (hold : s.host.Numbered) (names : Names) (text : String)
    (p : Service.Processed) : ∃ reply, reply.sender = .agent ∧ reply.delivery = none ∧
      reply.content = .str p.content ∧ reply.metadata = p.metadata.orElse (.obj []) ∧
      Extends s.host ((s.host.typed names text).delivered .sent) [reply]
        (replied names s.host.made p (awaiting names text s)).host := by
  have hawaiting : Extends s.host ((s.host.typed names text).delivered .sending) []
      (awaiting names text s).host :=
    ⟨rfl, rfl, rfl, Nat.lt_succ_self _, List.forall_mem_nil _⟩
  have hsent : Extends s.host ((s.host.typed names text).delivered .sent) []
      ((awaiting names text s).host.deliver s.host.made .sent) := hawaiting.deliver hold .sent
  exact ⟨_, rfl, rfl, rfl, rfl, hsent.add rfl⟩

namespace Desk

section

variable {settings : Settings} (supply : Supply) {limit : Int}
  (hlimit : settings.historyLimit = .ok limit) {text : String} (htext : text ≠ "")
  {d : Desk (Service.State Documents)} (hconversation : d.session.host.conversationId ≠ "")

/-- The answer of the service to a text. -/
def processed (supply : Supply) (text : String) (d : Desk (Service.State Documents)) :
    Service.Processed :=
  ⟨supply.id (d.client.ids + 1), (Agent.respond text).content, (Agent.respond text).metadata,
    supply.time (d.client.times + 1)⟩

theorem content_processed (supply : Supply) (text : String) (d : Desk (Service.State Documents)) :
    (d.processed supply text).content = (Agent.respond text).content := by
  rw [processed]

theorem metadata_processed (supply : Supply) (text : String) (d : Desk (Service.State Documents)) :
    (d.processed supply text).metadata = (Agent.respond text).metadata := by
  rw [processed]

include hlimit htext hconversation

theorem send_eq_complete (names : Names) :
    let client := Client.ofService (Service.inMemory settings supply)
    let r := complete names client d.session.host.made (.ok (d.processed supply text).toJson)
      ⟨awaiting names text d.session,
        d.client.exchange settings supply d.session.host.conversationId text⟩
    d.send names client (.str text) =
      ((d.session.host.typed names text).delivered r.1, r.2) := by
  intro client r
  let answered := request client (.reply (.str text) d.session.host.conversationId)
    ⟨awaiting names text d.session, d.client⟩
  have hanswered : answered = (.ok (d.processed supply text).toJson,
      ⟨awaiting names text d.session,
        d.client.exchange settings supply d.session.host.conversationId text⟩) := by
    show request client (.reply (.str text) d.session.host.conversationId) _ = _
    unfold request
    dsimp only
    rw [Client.runIn_send_ofService settings supply hlimit htext hconversation d.client]
    rfl
  have hsend : d.send names client (.str text) =
      ((d.session.host.typed names text).delivered
          (complete names client d.session.host.made answered.1 answered.2).1,
        (complete names client d.session.host.made answered.1 answered.2).2) := rfl
  rw [hsend, hanswered]

theorem send_plain (hnone : (Agent.respond text).suggestion = none) (names : Names) :
    d.send names (Client.ofService (Service.inMemory settings supply)) (.str text) =
      ((d.session.host.typed names text).delivered .sent,
        ⟨remember (fun c => { c with loading := false })
          (replied names d.session.host.made (d.processed supply text)
            (awaiting names text d.session)).unmount,
          d.client.exchange settings supply d.session.host.conversationId text⟩) := by
  rw [send_eq_complete supply hlimit htext hconversation, complete,
    reply_plain (metadata_processed ..) hnone]

theorem send_suggesting {ps : List (String × Json)}
    (hsome : (Agent.respond text).suggestion = some ps) {type : String}
    (htype : Dict.find "type" ps = some (.str type)) (hne : type ≠ "") {root : Node}
    (hbuilt : Build.tree (.str type) (.obj ps) = .ok root)
    (hparse : Definition.parse root.envelope = .ok (some (.tree root), [])) (names : Names) :
    d.send names (Client.ofService (Service.inMemory settings supply)) (.str text) =
      ((d.session.host.typed names text).delivered .sent,
        ⟨remember (fun c => { c with loading := false })
          ((replied names d.session.host.made (d.processed supply text)
            (awaiting names text d.session)).unmount.start
              (Mount.start (names.mount d.session.mounts.length) (some (.tree root)) [])),
          (d.client.exchange settings supply d.session.host.conversationId text).store
            settings.componentsTable (Service.component (supply.id (d.client.ids + 2)) (.str type)
              Service.anonymous (.obj ps) root.envelope (supply.time (d.client.times + 2)))⟩) := by
  have hgenerated := Client.runIn_generate_ofService settings supply hne hbuilt
    (d.client.exchange settings supply d.session.host.conversationId text)
  rw [send_eq_complete supply hlimit htext hconversation, complete,
    reply_suggesting (metadata_processed ..) hsome htype]
  dsimp only [request]
  rw [hgenerated]
  dsimp only
  rw [shown_generated hparse rfl]
  rfl

end

end Desk

/-! ## Names of conversations -/

/-- Memory in order, in which every conversation has a name. -/
structure Named (c : Chat) : Prop where
  orderly : c.Orderly
  named : ∀ conversation ∈ c.conversations, conversation.id ≠ ""

theorem named_new (names : Names) : (Chat.new names).Named where
  orderly := orderly_new names
  named := List.forall_mem_singleton.mpr (by decide)

theorem Named.conversationId_ne {c : Chat} (h : c.Named) : c.conversationId ≠ "" := by
  obtain ⟨first, rest, hrest, -, -, hid⟩ := h.orderly.active
  rw [hid]
  exact h.named first (hrest ▸ List.mem_cons_self)

/-- Conversations keep their names, and new ones are given some. -/
theorem lasts_named (hnames : ∀ n, names.conversation n ≠ "") : Lasts names Named where
  orderly h := h.orderly
  writes hwrites h := by
    refine ⟨hwrites.orderly h.orderly, ?_⟩
    cases hwrites with
    | add => exact h.named
    | begin =>
      refine List.forall_mem_cons.mpr ⟨hnames _, fun conversation hconversation => ?_⟩
      obtain ⟨other, hother, rfl⟩ := List.mem_map.mp hconversation
      exact h.named other hother
  ended hended h := by
    obtain ⟨added, hextends, -⟩ := hended.extends_
    exact ⟨hended.orderly h.orderly, hextends.conversations ▸ h.named⟩

/-! ## The main result -/

/-- What it comes to to send a text to a service at hand, from one desk to the next. -/
structure Answered (names : Names) (settings : Settings) (supply : Supply) (text : String)
    (d : Desk (Service.State Documents)) (message : Message) (d' : Desk (Service.State Documents)) :
    Prop where
  /-- The message has arrived. -/
  sent : message = {
    number := d.session.host.made, id := .str (names.message d.session.host.made)
    content := .str text, sender := .user, delivery := some .sent, metadata := .null }
  /-- It is added with what the agent says, which is not that something went wrong. -/
  messages : ∃ reply, d'.session.host.messages = d.session.host.messages ++ [message, reply] ∧
    reply.sender = .agent ∧ reply.delivery = none ∧
    reply.content = .str (Agent.respond text).content ∧
    reply.metadata = (Agent.respond text).metadata ∧
    reply.content ≠
      .str "Sorry, there was an error processing your message. Please try again." ∧
    reply.content ≠
      .str "Sorry, there was an error generating the UI components. Please try again."
  idle : d'.session.host.loading = false
  /-- The conversation is the one that is active. -/
  active : ∃ conversation ∈ d.session.host.conversations, conversation.active = true ∧
    conversation.id = d.session.host.conversationId
  /-- Both are stored under it. -/
  stored : ∃ asked answered : Document,
    d'.client.messages settings = d.client.messages settings ++ [asked, answered] ∧
    asked.entries = [("id", .str (supply.id d.client.ids)),
      ("conversationId", .str d.session.host.conversationId), ("userId", .str "anonymous"),
      ("content", .str text), ("sender", .str "user"),
      ("timestamp", .str (supply.time d.client.times))] ∧
    answered.entries = [("id", .str (supply.id (d.client.ids + 1))),
      ("conversationId", .str d.session.host.conversationId), ("userId", .str "anonymous"),
      ("content", .str (Agent.respond text).content), ("sender", .str "agent"),
      ("timestamp", .str (supply.time (d.client.times + 1))),
      ("metadata", (Agent.respond text).metadata)]
  /-- No other table is written to, but that of user interfaces. -/
  untouched : ∀ name, name ≠ .text settings.messagesTable →
    name ≠ .text settings.componentsTable →
      d'.client.documents.table name = d.client.documents.table name
  /-- If the rule that answers the message has parameters, what they are for is built, stored, and
  shown by a mount that was not there before. -/
  suggested : ∀ (rule : Agent.Rule) ps, rule.Answers text → rule.reply.suggestion = some ps →
    ∃ (type : Json) (root : Node) (built : Document) (m : Mount),
      Dict.find "type" ps = some type ∧ Build.tree type (.obj ps) = .ok root ∧
      d'.client.components settings = d.client.components settings ++ [built] ∧
      built.entries = [("id", .str (supply.id (d.client.ids + 2))), ("type", type),
        ("userId", .str "anonymous"), ("parameters", .obj ps), ("components", root.envelope),
        ("timestamp", .str (supply.time (d.client.times + 2)))] ∧
      d'.session.current = some d.session.mounts.length ∧ d'.session.currentMount = some m ∧
      m = Mount.start (names.mount d.session.mounts.length) (some (.tree root)) [] ∧
      m.definition = some (.tree root) ∧ m.view = .one (root.view ∅) ∧
      m.mounted = true ∧ m.store.values = ∅
  /-- If not, nothing else is stored, and nothing is shown. -/
  plain : (∀ rule : Agent.Rule, rule.Answers text → rule.reply.suggestion = none) →
    d'.client.components settings = d.client.components settings ∧ d'.session.currentMount = none

/-- The text and its reply are added to the others. -/
theorem messages_replied (hold : s.host.Numbered) (names : Names) (supply : Supply) (text : String)
    (client : Service.State Documents) : ∃ reply,
    (replied names s.host.made (Desk.processed supply text ⟨s, client⟩)
        (awaiting names text s)).host.messages = s.host.messages ++
      [(s.host.typed names text).delivered .sent, reply] ∧
    reply.sender = .agent ∧ reply.delivery = none ∧
    reply.content = .str (Agent.respond text).content ∧
    reply.metadata = (Agent.respond text).metadata ∧
    reply.content ≠ .str sendError ∧ reply.content ≠ .str generateError := by
  obtain ⟨reply, hsender, hdelivery, hcontent, hmetadata, hextends⟩ :=
    extends_replied hold names text (Desk.processed supply text ⟨s, client⟩)
  obtain ⟨hsend, hgenerate⟩ := Agent.content_respond_ne text
  rw [Desk.content_processed] at hcontent
  rw [Desk.metadata_processed, Agent.Reply.orElse_metadata] at hmetadata
  have hne {error : String} (h : (Agent.respond text).content ≠ error) :
      reply.content ≠ .str error := fun heq => h (Json.str.inj (hcontent.symm.trans heq))
  exact ⟨reply, hextends.messages, hsender, hdelivery, hcontent, hmetadata, hne hsend,
    hne hgenerate⟩

theorem answered_send {settings : Settings} (supply : Supply) {limit : Int}
    (hlimit : settings.historyLimit = .ok limit) {text : String} (htext : text ≠ "")
    {d : Desk (Service.State Documents)} (hnamed : d.session.host.Named) :
    let r := d.send names (Client.ofService (Service.inMemory settings supply)) (.str text)
    Answered names settings supply text d r.1 r.2 := by
  intro r
  obtain ⟨first, rest, hrest, hactive, -, hid⟩ := hnamed.orderly.active
  have hconversation : ∃ conversation ∈ d.session.host.conversations,
      conversation.active = true ∧ conversation.id = d.session.host.conversationId :=
    ⟨first, hrest ▸ List.mem_cons_self, hactive, hid.symm⟩
  have hmessages := messages_replied hnamed.orderly.numbered names supply text d.client
  cases hsuggestion : (Agent.respond text).suggestion with
  | none =>
    have hsend : r = _ :=
      Desk.send_plain supply hlimit htext hnamed.conversationId_ne hsuggestion names
    rw [hsend]
    exact {
      sent := rfl
      messages := by
        dsimp only [remember]
        rw [Session.host_unmount]
        exact hmessages
      idle := rfl
      active := hconversation
      stored := ⟨_, _, Service.State.messages_exchange .., Service.entries_userMessage ..,
        Service.entries_agentMessage ..⟩
      untouched := fun name hname _ => Service.State.table_exchange_of_ne _ _ _ _ _ hname
      suggested := fun rule ps hrule hps => by
        rw [Agent.suggestion_respond, (Agent.rule?_eq_some_iff text rule).mpr hrule] at hsuggestion
        exact absurd (hps.symm.trans hsuggestion) nofun
      plain := fun _ => ⟨Service.State.components_exchange .., Session.currentMount_unmount _⟩ }
  | some ps =>
    obtain ⟨rule, hrule, hps⟩ := Agent.rule_of_suggestion hsuggestion
    obtain ⟨type, root, htype, hne, hbuilt, hparse⟩ := Agent.built_of_suggestion hrule hps
    have hsend : r = _ := Desk.send_suggesting supply hlimit htext hnamed.conversationId_ne
      hsuggestion htype hne hbuilt hparse names
    rw [hsend]
    exact {
      sent := rfl
      messages := by
        dsimp only [remember, Session.start]
        rw [Session.host_unmount]
        exact hmessages
      idle := rfl
      active := hconversation
      stored := by
        rw [Service.State.messages_store_component]
        exact ⟨_, _, Service.State.messages_exchange .., Service.entries_userMessage ..,
          Service.entries_agentMessage ..⟩
      untouched := fun name hmessage hcomponent => by
        dsimp only
        rw [Service.State.table_store_of_ne _ hcomponent]
        exact Service.State.table_exchange_of_ne _ _ _ _ _ hmessage
      suggested := fun rule' ps' hrule' hps' => by
        have hsame := (Agent.rule?_eq_some_iff text rule').mpr hrule'
        obtain rfl := Option.some.inj (hrule.symm.trans hsame)
        obtain rfl := Option.some.inj (hps.symm.trans hps')
        refine ⟨.str type, root, _, _, htype, hbuilt, ?_, Service.entries_component .., ?_, ?_,
          rfl, rfl, rfl, rfl, rfl⟩
        · dsimp only
          rw [Service.State.components_store, Service.State.components_exchange]
          rfl
        · exact congrArg some (Session.length_unmount _)
        · exact Session.currentMount_start ..
      plain := fun hnone =>
        absurd (hps.symm.trans (hnone rule ((Agent.rule?_eq_some_iff text rule).mp hrule))) nofun }

/--
**A text that is sent to a service at hand is always answered.** Whatever was asked of the chat
before, by whichever client, and whatever is stored: if the settings can be read and the text is not
empty, the two messages are added and stored, and what the first rule that knows a word of the text
suggests is built, stored and shown; where no rule suggests anything, nothing is shown afterwards.
-/
theorem send_answered {ω : Type} (names : Names) (hnames : ∀ n, names.conversation n ≠ "")
    (onChange : Nat → Nat → State → Session Chat → Session.Code Chat)
    (hlisten : ∀ i number changes (s : Session Chat), s.host.Orderly →
      (onChange i number changes s).KeepsTo (·.host.Orderly) (Permits names) s)
    (earlier : Client ω) (world : ω) (depth : Nat) (operations : List Operation)
    (settings : Settings) (supply : Supply) (limit : Int)
    (hlimit : settings.historyLimit = .ok limit) (served : Service.State Documents)
    (text : String) (htext : text ≠ "") :
    let before := Desk.run names onChange earlier depth ⟨Chat.start names, world⟩ operations
    let d : Desk (Service.State Documents) := ⟨before.session, served⟩
    let r := d.send names (Client.ofService (Service.inMemory settings supply)) (.str text)
    Answered names settings supply text d r.1 r.2 := by
  intro before d r
  have hstart : Kept Named (Chat.start names) :=
    ⟨fun i m hm => absurd hm (by simp [start, Session.new]), named_new names⟩
  have hkept : Kept Named before.session :=
    Desk.kept_run hlisten (lasts_named hnames) earlier depth hstart operations
  exact answered_send supply hlimit htext hkept.2

/-- A form is the first thing that is shown, after all that went wrong before. -/
theorem send_answered_unlucky :
    let names : Names := ⟨toString, fun n => "c" ++ toString n, toString⟩
    let before := Desk.run names (impatient names) Client.scripted 5
      ⟨Chat.start names, [.error (.failure "offline"), .ok (.int 7)]⟩
      [.newConversation, .send (.str "hello"), .event submitEvent .null, .send .null]
    let d : Desk (Service.State Documents) := ⟨before.session, Service.State.new ∅⟩
    let r := d.send names (Client.ofService (Service.inMemory .default Service.numbered))
      (.str "A FORM, please")
    (∀ n, names.conversation n ≠ "") ∧
      Answered names .default Service.numbered "A FORM, please" d r.1 r.2 ∧
      (r.2.client.messages .default).length = 2 ∧ (r.2.client.components .default).length = 1 ∧
      r.2.session.current = some 0 := by
  intro names before d r
  have hnames : ∀ n, names.conversation n ≠ "" := by
    intro n h
    have hlist := congrArg String.toList h
    rw [String.toList_append] at hlist
    cases hlist
  have hanswered : Answered names .default Service.numbered "A FORM, please" d r.1 r.2 :=
    send_answered names hnames (impatient names)
      (fun _ _ _ _ _ => ⟨.begin, fun _ _ _ _ => trivial⟩) Client.scripted _ 5 _ .default
      Service.numbered 10 rfl (Service.State.new ∅) "A FORM, please" (by decide)
  have hsuggestion : ((Agent.rule? "A FORM, please").bind fun rule => rule.reply.suggestion) =
      some Agent.contactForm := by decide +kernel
  obtain ⟨rule, hrule, hps⟩ := Option.bind_eq_some_iff.mp hsuggestion
  obtain ⟨_, _, _, _, -, -, hcomponents, -, hcurrent, -⟩ :=
    hanswered.suggested rule _ ((Agent.rule?_eq_some_iff _ rule).mp hrule) hps
  refine ⟨hnames, hanswered, ?_, ?_, hcurrent⟩
  · obtain ⟨_, _, hstored, -⟩ := hanswered.stored
    rw [hstored]
    rfl
  · rw [hcomponents]
    rfl

end Chat

end AssistantUI
