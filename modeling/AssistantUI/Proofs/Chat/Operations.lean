import AssistantUI.Proofs.Chat.Mounted
import AssistantUI.Proofs.Session.Permitted

/-!
# Chats between operations

Exchanges, user interfaces that are asked for, conversations that are begun and events all write
into the memory of a chat, and some of them fail half-way. Between two operations the memory is
nevertheless in order (`Chat.Orderly`): the welcome comes first, no message is on its way, and the
first conversation is the one that is active.

Events are the delicate part, for there host code is called, and the chat is only one of those who
listen. `Chat.Writes` says what may be done to the memory meanwhile, and whoever keeps to it leaves
the memory in order. The main result, `Chat.exchanges_consistent`, puts this together with the four
ways in which an exchange ends.
-/

namespace AssistantUI

namespace Chat

/-! ## Memory in order -/

/-- The memory of a chat as it should be between two operations. -/
structure Orderly (c : Chat) : Prop where
  numbered : c.Numbered
  /-- The welcome comes first. -/
  welcomed : ∃ m rest, c.messages = m :: rest ∧ IsNotice welcomeText m
  /-- No message is on its way. -/
  settled : ∀ m ∈ c.messages, m.delivery ≠ some .sending
  /-- Nobody waits. -/
  idle : c.loading = false
  /-- The first conversation is the only one that is active, and messages are sent for it. -/
  active : ∃ first rest, c.conversations = first :: rest ∧ first.active = true ∧
    (∀ other ∈ rest, other.active = false) ∧ c.conversationId = first.id

variable {names : Names} {c : Chat}

theorem conversationId_of_active {first : Conversation} {rest : List Conversation}
    (h : c.conversations = first :: rest) (hactive : first.active = true) :
    c.conversationId = first.id := by
  rw [conversationId, h, List.find?_cons_of_pos hactive]

/-- What holds of the memory of a chat that has just been welcomed. -/
theorem orderly_welcome (h : c.loading = false) {first : Conversation} {rest : List Conversation}
    (hconversations : c.conversations = first :: rest) (hactive : first.active = true)
    (hothers : ∀ other ∈ rest, other.active = false) : (c.welcome names).Orderly where
  numbered m hm := by
    obtain rfl := List.mem_singleton.mp hm
    exact Nat.lt_succ_self _
  welcomed := ⟨_, [], rfl, isNotice_compose _ names welcomeText⟩
  settled m hm := by
    obtain rfl := List.mem_singleton.mp hm
    exact nofun
  idle := h
  active := ⟨first, rest, hconversations, hactive, hothers,
    conversationId_of_active hconversations hactive⟩

theorem orderly_new (names : Names) : (Chat.new names).Orderly :=
  orderly_welcome rfl rfl rfl (List.forall_mem_nil _)

namespace Orderly

theorem begin (h : c.Orderly) : (c.begin names).Orderly := by
  refine orderly_welcome h.idle rfl rfl fun other hother => ?_
  obtain ⟨_, _, rfl⟩ := List.mem_map.mp hother
  rfl

/-- The list of messages may grow at its end. -/
theorem extend (h : c.Orderly) {c' : Chat} {added : List Message} (hidle : c'.loading = false)
    (hmessages : c'.messages = c.messages ++ added)
    (hconversations : c'.conversations = c.conversations) (hmade : c.made ≤ c'.made)
    (hadded : ∀ m ∈ added, m.number < c'.made ∧ m.delivery ≠ some .sending) : c'.Orderly where
  numbered m hm := by
    rw [hmessages] at hm
    rcases List.mem_append.mp hm with hm | hm
    · exact Nat.lt_of_lt_of_le (h.numbered m hm) hmade
    · exact (hadded m hm).1
  welcomed := by
    obtain ⟨m, rest, hrest, hm⟩ := h.welcomed
    exact ⟨m, rest ++ added, by rw [hmessages, hrest, List.cons_append], hm⟩
  settled m hm := by
    rw [hmessages] at hm
    rcases List.mem_append.mp hm with hm | hm
    · exact h.settled m hm
    · exact (hadded m hm).2
  idle := hidle
  active := by
    obtain ⟨first, rest, hrest, hactive, hothers, -⟩ := h.active
    rw [← hconversations] at hrest
    exact ⟨first, rest, hrest, hactive, hothers, conversationId_of_active hrest hactive⟩

theorem add (h : c.Orderly) {m : Message} (hnumber : m.number = c.made)
    (hdelivery : m.delivery ≠ some .sending) : (c.add m).Orderly := by
  have hadded : ∀ k ∈ [m], k.number < c.made + 1 ∧ k.delivery ≠ some .sending := fun k hk => by
    obtain rfl := List.mem_singleton.mp hk
    exact ⟨Nat.lt_of_le_of_lt (Nat.le_of_eq hnumber) (Nat.lt_succ_self _), hdelivery⟩
  exact h.extend h.idle rfl rfl (Nat.le_succ _) hadded

end Orderly

theorem IsReply.settled {answer : Except Fault Json} {m : Message} (h : IsReply answer m) :
    m.delivery ≠ some .sending := by
  rw [h.delivery]
  exact nofun

theorem IsNotice.settled {text : String} {m : Message} (h : IsNotice text m) :
    m.delivery ≠ some .sending := by
  rw [h.delivery]
  exact nofun

/-- By the end of an exchange none of its messages is on its way. -/
theorem Outcome.settled {user : Message} {answer : Except Fault Json} {d : Delivery}
    {added : List Message} (h : Outcome user answer d added) :
    ∀ m ∈ added, m.delivery ≠ some .sending := by
  cases h with
  | answered hreply =>
    exact List.forall_mem_cons.mpr ⟨nofun, List.forall_mem_singleton.mpr hreply.settled⟩
  | failed hnotice =>
    exact List.forall_mem_cons.mpr ⟨nofun, List.forall_mem_singleton.mpr hnotice.settled⟩
  | unshown hreply hnotice | broken hreply hnotice =>
    exact List.forall_mem_cons.mpr ⟨nofun, List.forall_mem_cons.mpr
      ⟨hreply.settled, List.forall_mem_singleton.mpr hnotice.settled⟩⟩

/-- An exchange leaves the memory in order, however it ends. -/
theorem Ended.orderly {old : Chat} {user : Message} {answer : Except Fault Json} {d : Delivery}
    (h : Ended old user answer d c) (hold : old.Orderly) : c.Orderly := by
  obtain ⟨added, hextends, houtcome⟩ := h.extends_
  have hnumber : old.made < c.made := by
    have := hextends.number
    have := hextends.made
    omega
  refine hold.extend h.idle hextends.messages hextends.conversations (Nat.le_of_lt hnumber) ?_
  intro m hm
  refine ⟨?_, houtcome.settled m hm⟩
  rcases List.mem_cons.mp hm with rfl | hm
  · exact hextends.made
  · exact (hextends.added m hm).2

/-! ## Memory while host code runs -/

/-- What may be done to the memory of a chat: to add a message that has come to its end, and to
begin a conversation. -/
inductive Writes (names : Names) (c : Chat) : Chat → Prop where
  | add {m : Message} : m.number = c.made → m.delivery ≠ some .sending → Writes names c (c.add m)
  | begin : Writes names c (c.begin names)

theorem Writes.orderly {c' : Chat} (h : Writes names c c') (hc : c.Orderly) : c'.Orderly := by
  cases h with
  | add hnumber hdelivery => exact hc.add hnumber hdelivery
  | begin => exact hc.begin

/-- Everything may be asked of a session, but its memory is only written to in these ways. -/
def Permits (names : Names) (s : Session Chat) : Session.Op Chat → Prop
  | .remember memory => Writes names s.host memory
  | _ => True

/-- The chat itself keeps to it when it is told of an event. -/
theorem keepsTo_onEvent (names : Names) (name : String) (payload : Json) (s : Session Chat) :
    (onEvent names name payload s).KeepsTo (·.host.Orderly) (Permits names) s := by
  unfold onEvent
  split
  · cases submitted s payload with
    | error f => trivial
    | ok data =>
      refine ⟨.add rfl nofun, fun answer s' _ _ => ?_⟩
      cases answer with
      | error f => trivial
      | ok reply =>
        refine ⟨trivial, fun answer s'' _ _ => ?_⟩
        cases answer <;> trivial
  · trivial

/-- A property of memory in order that is kept by whatever is written, and by exchanges. -/
structure Lasts (names : Names) (P : Chat → Prop) : Prop where
  orderly {a : Chat} : P a → a.Orderly
  writes {a b : Chat} : Writes names a b → P a → P b
  ended {a b : Chat} {user answer d} : Ended a user answer d b → P a → P b

theorem lasts_orderly (names : Names) : Lasts names Orderly where
  orderly h := h
  writes h := h.orderly
  ended h := h.orderly

/-- A session of a chat whose memory has the property. -/
def Kept (P : Chat → Prop) (s : Session Chat) : Prop := s.Heard ∧ P s.host

/-- A session whose memory is in order. -/
def Tidy (s : Session Chat) : Prop := s.Heard ∧ s.host.Orderly

namespace Lasts

variable {P : Chat → Prop} (hP : Lasts names P)
  {onChange : Nat → Nat → State → Session Chat → Session.Code Chat}
  (hlisten : ∀ i number changes (s : Session Chat), s.host.Orderly →
    (onChange i number changes s).KeepsTo (·.host.Orderly) (Permits names) s)
include hP hlisten

/-- Operations keep what lasts, whoever listens in the course of them. -/
theorem permitted_perform (depth : Nat) :
    Session.Permitted (fun r => P r.session.host) (Permits names)
      (Session.Recorded.perform (hostWith names onChange) depth)
      (Session.perform (hostWith names onChange) depth) := by
  have hundisturbed := Session.undisturbed_host P
  refine hundisturbed.perform_simulates (fun _ hr => hP.orderly hr) (hostWith names onChange)
    hlisten (fun r memory hr hwrites => hP.writes hwrites hr)
    (fun depth hperform r op i handler _ _ _ => ?_) depth
  refine Session.tellsAlike_of_told fun told name payload htold _ q m hq _ _ => ?_
  obtain rfl := Option.some.inj htold
  exact hperform.call_simulates hundisturbed (fun _ hr => hP.orderly hr) r.session
    (fun s _ _ => keepsTo_onEvent names name _ s) _ _ ⟨rfl, hq.heard, hq.inv⟩

theorem perform (depth : Nat) {s : Session Chat} (h : Kept P s) {op : Session.Op Chat}
    (hop : Permits names s op) :
    Kept P ((Session.perform (hostWith names onChange) depth op).runIn s).2 := by
  obtain ⟨-, hsame, hheard, hkept, -⟩ :=
    hP.permitted_perform hlisten depth op ⟨s, []⟩ s ⟨rfl, h.1, h.2⟩ hop
  exact ⟨hheard, hsame ▸ hkept⟩

theorem runCode (depth : Nat) {s : Session Chat} (h : Kept P s) {code : Session.Code Chat}
    (hcode : code.KeepsTo (·.host.Orderly) (Permits names) s) :
    Kept P ((code.run (Session.perform (hostWith names onChange) depth)).runIn s).2 := by
  obtain ⟨-, hsame, hheard, hkept, -⟩ :=
    (hP.permitted_perform hlisten depth).runCode_simulates (Session.undisturbed_host P)
      (fun _ hr => hP.orderly hr) s code (r := ⟨s, []⟩) ⟨rfl, h.1, h.2, .refl s⟩ hcode
  exact ⟨hheard, hsame ▸ hkept⟩

end Lasts

/-! ## Operations -/

/-- One thing that is asked of a chat or of what it shows. -/
inductive Operation where
  /-- To send a message. -/
  | send (content : Json)
  /-- To ask for a user interface and show it. -/
  | generate (parameters : Json)
  | newConversation
  /-- To hear of an event. -/
  | event (name : String) (payload : Json)
  /-- Something that is asked of the session, whose memory is left to the chat. -/
  | interact (op : Session.Op Chat) (h : ∀ memory, op ≠ .remember memory)

namespace Desk

variable {ω : Type}

section

variable (names : Names) (onChange : Nat → Nat → State → Session Chat → Session.Code Chat)
  (client : Client ω) (depth : Nat)

/-- Does what is asked. -/
def operate (d : Desk ω) : Operation → Desk ω
  | .send content => (d.send names client content).2
  | .generate parameters => (d.generate names client parameters).2
  | .newConversation => { d with session := Chat.newConversation names d.session }
  | .event name payload =>
    { d with session := (((onEvent names name payload d.session).run
        (Session.perform (hostWith names onChange) depth)).runIn d.session).2 }
  | .interact op _ =>
    { d with session := ((Session.perform (hostWith names onChange) depth op).runIn d.session).2 }

/-- Does what is asked, one thing after the other. -/
def run (d : Desk ω) (operations : List Operation) : Desk ω :=
  operations.foldl (operate names onChange client depth) d

end

theorem host_generate (names : Names) (client : Client ω) (parameters : Json) (d : Desk ω) :
    (d.generate names client parameters).2.session.host = d.session.host ∨
      (d.generate names client parameters).2.session.host =
        d.session.host.tell names generateError := by
  unfold generate
  cases interfaceRequest parameters with
  | ok r =>
    dsimp only
    rw [← session_request client r d]
    exact (host_showInterface names _ _).imp_right And.right
  | error f => exact (host_showInterface names _ _).imp_right And.right

variable {P : Chat → Prop} {onChange : Nat → Nat → State → Session Chat → Session.Code Chat}
  (hlisten : ∀ i number changes (s : Session Chat), s.host.Orderly →
    (onChange i number changes s).KeepsTo (·.host.Orderly) (Permits names) s)
include hlisten

/-- Whatever is asked of a chat keeps what lasts. -/
theorem kept_operate (hP : Lasts names P) (client : Client ω) (depth : Nat) {d : Desk ω}
    (h : Kept P d.session) (operation : Operation) :
    Kept P (operate names onChange client depth d operation).session := by
  cases operation with
  | send content =>
    obtain ⟨_, -, hended⟩ := ended_send names client content d (hP.orderly h.2).numbered
    exact ⟨keeps_heard.send h.1 names client content, hP.ended hended h.2⟩
  | generate parameters =>
    refine ⟨keeps_heard.generate h.1 names client parameters, ?_⟩
    show P (d.generate names client parameters).2.session.host
    rcases host_generate names client parameters d with hsame | htold
    · rw [hsame]
      exact h.2
    · rw [htold]
      exact hP.writes (.add rfl nofun) h.2
  | newConversation =>
    refine ⟨keeps_heard.newConversation names h.1, ?_⟩
    have hhost := Session.host_unmount (remember (fun c => c.begin names) d.session)
    exact hhost ▸ hP.writes .begin h.2
  | event name payload => exact hP.runCode hlisten depth h (keepsTo_onEvent names name payload _)
  | interact op hop =>
    refine hP.perform hlisten depth h ?_
    cases op with
    | remember memory => exact absurd rfl (hop memory)
    | _ => trivial

theorem kept_run (hP : Lasts names P) (client : Client ω) (depth : Nat) {d : Desk ω}
    (h : Kept P d.session) (operations : List Operation) :
    Kept P (run names onChange client depth d operations).session := by
  induction operations generalizing d with
  | nil => exact h
  | cons operation rest ih => exact ih (kept_operate hlisten hP client depth h operation)

theorem tidy_run (client : Client ω) (depth : Nat) {d : Desk ω} (h : Tidy d.session)
    (operations : List Operation) :
    Tidy (run names onChange client depth d operations).session :=
  kept_run hlisten (lasts_orderly names) client depth h operations

end Desk

/-! ## The main result -/

/--
**An exchange always ends, and a chat is always in order.** Whatever the client answers, and whether
it answers at all, a message that is sent becomes the first of two or three that the exchange adds
in one of four ways, and after it nobody waits. Whatever is asked of a chat, and whatever fails, its
memory is in order afterwards.
-/
theorem exchanges_consistent {ω : Type} (names : Names)
    (onChange : Nat → Nat → State → Session Chat → Session.Code Chat)
    (hlisten : ∀ i number changes (s : Session Chat), s.host.Orderly →
      (onChange i number changes s).KeepsTo (·.host.Orderly) (Permits names) s)
    (client : Client ω) (depth : Nat) :
    (∀ (content : Json) (d : Desk ω), d.session.host.Numbered →
      let user : Message := {
        number := d.session.host.made, id := .str (names.message d.session.host.made)
        content := content, sender := .user, delivery := none, metadata := .null }
      let r := d.send names client content
      ∃ delivery added, r.1 = user.delivered delivery ∧
        Outcome user (d.firstAnswer names client content) delivery added ∧
        r.2.session.host.messages = d.session.host.messages ++ added ∧
        r.2.session.host.loading = false) ∧
    ∀ (world : ω) (operations : List Operation),
      let d := Desk.run names onChange client depth ⟨Chat.start names, world⟩ operations
      d.session.host.Orderly := by
  constructor
  · intro content d hnumbered
    obtain ⟨delivery, hmessage, hended⟩ := Desk.ended_send names client content d hnumbered
    obtain ⟨added, hextends, houtcome⟩ := hended.extends_
    exact ⟨delivery, _, hmessage, houtcome, hextends.messages, hended.idle⟩
  · intro world operations d
    have hstart : Tidy (Chat.start names) :=
      ⟨fun i m hm => absurd hm (by simp [start, Session.new]), orderly_new names⟩
    exact (Desk.tidy_run hlisten client depth hstart operations).2

/-- A client that gives the answers that were written down for it, and then none. -/
def Client.scripted : Client (List (Except Fault Json)) where
  send _ _ _ answers := (answers.headD (.error (.failure "offline")), answers.tail)
  generate _ _ _ answers := (answers.headD (.error (.failure "offline")), answers.tail)

/-- Someone who begins a conversation as soon as the user has written something. -/
def impatient (names : Names) (_ _ : Nat) (_ : State) (s : Session Chat) : Session.Code Chat :=
  .ask (.remember (s.host.begin names)) fun _ _ => .done

/--
A reply suggests a user interface that never comes, and the next one is a number. In between
something is submitted that nobody can read.
-/
theorem exchanges_consistent_unlucky :
    let names : Names := ⟨toString, toString, toString⟩
    let suggestion : Json := .obj [("suggestedAction", .str Agent.suggestedAction)]
    let answers : List (Except Fault Json) :=
      [.ok (.obj [("content", .str "Here you are."), ("metadata", suggestion)]),
        .error (.failure "offline"), .ok (.int 7)]
    let before : Desk (List (Except Fault Json)) := ⟨Chat.start names, answers⟩
    let after := Desk.run names (impatient names) Client.scripted 5 before
      [.newConversation, .send (.str "a form, please"), .event submitEvent .null, .send .null]
    let r := before.send names Client.scripted (.str "a form, please")
    let user : Message := {
      number := 1, id := .str "1", content := .str "a form, please", sender := .user
      delivery := none, metadata := .null }
    (∀ i number changes (s : Session Chat), s.host.Orderly →
        (impatient names i number changes s).KeepsTo (·.host.Orderly) (Permits names) s) ∧
      before.session.host.Numbered ∧
      (∃ delivery added, r.1 = user.delivered delivery ∧
        Outcome user (before.firstAnswer names Client.scripted (.str "a form, please")) delivery
          added ∧
        r.2.session.host.messages = before.session.host.messages ++ added ∧
        r.2.session.host.loading = false) ∧
      after.session.host.Orderly ∧
      after.session.host.messages.map Message.delivery =
        [none, some .sent, none, none, some .failed, none] ∧
      after.session.host.conversationId = "0" := by
  have hlisten : ∀ i number changes (s : Session Chat), s.host.Orderly →
      (impatient ⟨toString, toString, toString⟩ i number changes s).KeepsTo (·.host.Orderly)
        (Permits ⟨toString, toString, toString⟩) s :=
    fun _ _ _ _ _ => ⟨.begin, fun _ _ _ _ => trivial⟩
  obtain ⟨hends, hkeeps⟩ := exchanges_consistent _ _ hlisten Client.scripted 5
  have hnumbered := (orderly_new ⟨toString, toString, toString⟩).numbered
  exact ⟨hlisten, hnumbered, hends _ ⟨Chat.start _, _⟩ hnumbered, hkeeps _ _, rfl, rfl⟩

end Chat

end AssistantUI
