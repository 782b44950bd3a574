import AssistantUI.Chat.Exchange
import AssistantUI.Proofs.Session.Interaction

/-!
# How an exchange ends

A message is sent by an exchange of up to two requests, and anything can go wrong on the way: either
request may fail, either answer may be any value at all, and what is to be mounted may be refused.
By then the message is already among the others, and perhaps the reply as well.

What an exchange adds is followed step by step: `Extends` says what was added to a chat since the
exchange began, and `Outcome` lists the four ways in which it can end. Every exchange ends in one of
them, with nobody waiting any more (`Desk.outcome_of_send`).
-/

namespace AssistantUI

/-- The message when it has come this far. -/
def Message.delivered (m : Message) (d : Delivery) : Message := { m with delivery := some d }

namespace Chat

/-- Messages are numbered below the next number. -/
def Numbered (c : Chat) : Prop := ∀ m ∈ c.messages, m.number < c.made

/-! ## What was added to a chat -/

/-- What is known of a chat to which a message of the user was added, and others after it. -/
structure Extends (old : Chat) (user : Message) (added : List Message) (c : Chat) : Prop where
  messages : c.messages = old.messages ++ user :: added
  conversations : c.conversations = old.conversations
  number : user.number = old.made
  made : user.number < c.made
  added : ∀ m ∈ added, user.number < m.number ∧ m.number < c.made

variable {names : Names} {old c : Chat} {user : Message} {added : List Message}

/-- Only the message of the user is on its way. -/
theorem Extends.deliver (hold : old.Numbered) (h : Extends old user added c) (d : Delivery) :
    Extends old (user.delivered d) added (c.deliver user.number d) where
  messages := by
    have hbefore : ∀ m ∈ old.messages, ¬ m.number = user.number := fun m hm => by
      have := hold m hm
      have := h.number
      omega
    have hafter : ∀ m ∈ added, ¬ m.number = user.number := fun m hm => by
      have := (h.added m hm).1
      omega
    show c.messages.map _ = _
    rw [h.messages, List.map_append, List.map_cons, if_pos rfl]
    congr 1
    · exact (List.map_congr_left fun m hm => if_neg (hbefore m hm)).trans (List.map_id _)
    · congr 1
      exact (List.map_congr_left fun m hm => if_neg (hafter m hm)).trans (List.map_id _)
  conversations := h.conversations
  number := h.number
  made := h.made
  added := h.added

theorem Extends.add (h : Extends old user added c) {m : Message} (hm : m.number = c.made) :
    Extends old user (added ++ [m]) (c.add m) where
  messages := by
    show c.messages ++ [m] = _
    rw [h.messages, List.append_assoc]
    rfl
  conversations := h.conversations
  number := h.number
  made := Nat.lt_succ_of_lt h.made
  added k hk := by
    show _ ∧ k.number < c.made + 1
    rcases List.mem_append.mp hk with hk | hk
    · exact ⟨(h.added k hk).1, Nat.lt_succ_of_lt (h.added k hk).2⟩
    · rw [List.mem_singleton.mp hk, hm]
      exact ⟨h.made, Nat.lt_succ_self _⟩

theorem Extends.tell (h : Extends old user added c) (names : Names) (text : String) :
    Extends old user (added ++ [c.compose names (.str text) .agent none]) (c.tell names text) :=
  h.add rfl

theorem Extends.wait (h : Extends old user added c) (loading : Bool) :
    Extends old user added { c with loading := loading } :=
  ⟨h.messages, h.conversations, h.number, h.made, h.added⟩

/-! ## The ways an exchange can end -/

/-- A message of the agent that says what the first answer said. -/
structure IsReply (answer : Except Fault Json) (m : Message) : Prop where
  sender : m.sender = .agent
  delivery : m.delivery = none
  content : ∃ members, answer = .ok (.obj members) ∧ Dict.find "content" members = some m.content

/-- A message in the name of the agent that says that something went wrong. -/
structure IsNotice (text : String) (m : Message) : Prop where
  sender : m.sender = .agent
  delivery : m.delivery = none
  content : m.content = .str text

theorem isNotice_compose (c : Chat) (names : Names) (text : String) :
    IsNotice text (c.compose names (.str text) .agent none) := ⟨rfl, rfl, rfl⟩

/--
How far the message of an exchange has come when it ends, and what the exchange has added, given the
answer to the first request.
-/
inductive Outcome (user : Message) (answer : Except Fault Json) :
    Delivery → List Message → Prop where
  /-- There is a reply, and its user interface, if it suggests one, is shown. -/
  | answered {reply : Message} : IsReply answer reply →
      Outcome user answer .sent [user.delivered .sent, reply]
  /-- There is a reply, but no user interface. -/
  | unshown {reply notice : Message} : IsReply answer reply → IsNotice generateError notice →
      Outcome user answer .sent [user.delivered .sent, reply, notice]
  /-- There is no reply. -/
  | failed {notice : Message} : IsNotice sendError notice →
      Outcome user answer .failed [user.delivered .failed, notice]
  /-- There is a reply that cannot be followed. -/
  | broken {reply notice : Message} : IsReply answer reply → IsNotice sendError notice →
      Outcome user answer .failed [user.delivered .failed, reply, notice]

/-! ## Steps of an exchange -/

theorem host_mount (host : Session.Host Chat) (what : Mountable) (s : Session Chat) :
    (Session.mount host what s).2.host = s.host := by
  rcases Session.session_mount host s what with hsame | ⟨_, _, hstarted⟩
  · rw [hsame, Session.host_unmount]
  · rw [hstarted]
    exact Session.host_unmount s

/-- Showing a user interface leaves the chat as it is, or tells that there is none. -/
theorem host_showInterface (names : Names) (answer : Except Fault Json) (s : Session Chat) :
    ((showInterface names answer).runIn s).2.host = s.host ∨
      (∃ i, ((showInterface names answer).runIn s).1 = .ok i) ∧
        ((showInterface names answer).runIn s).2.host = s.host.tell names generateError := by
  cases answer with
  | error f => exact Or.inr ⟨⟨none, rfl⟩, rfl⟩
  | ok j =>
    refine Or.inl ?_
    cases j with
    | obj members => exact host_mount ..
    | _ => rfl

/-- What is done after a reply, given what the service sent along with it. -/
def afterReply (metadata : Json) : Act (Session Chat) (Option Json) := do
  let extras ← metadata.members "get"
  if Json.member extras "suggestedAction" = .str Agent.suggestedAction then
    return some ((Json.member extras "parameters").orElse (.obj []))
  else
    modify Session.unmount
    return none

theorem host_afterReply (metadata : Json) (s : Session Chat) :
    ((afterReply metadata).runIn s).2.host = s.host := by
  cases metadata with
  | obj extras =>
    show ((if _ then _ else _ : Act (Session Chat) (Option Json)).runIn s).2.host = _
    split
    · rfl
    · exact Session.host_unmount s
  | _ => rfl

/-- The message that a reply makes. -/
def replyMessage (c : Chat) (names : Names) (members : List (String × Json)) (content : Json) :
    Message :=
  let m := c.compose names content .agent none
  { m with
    id := (Json.member members "messageId").orElse m.id
    metadata := (Json.member members "metadata").orElse (.obj []) }

/-- What is done with the content of a reply, if it has any. -/
def addReply (names : Names) (members : List (String × Json)) :
    Option Json → Act (Session Chat) (Option Json)
  | none => throw (.missingKey (.text "content"))
  | some content => do
    modify (remember fun c => c.add (c.replyMessage names members content))
    afterReply ((Json.member members "metadata").orElse (.obj []))

section

variable {members : List (String × Json)}

theorem runIn_takeReply (names : Names) (number : Nat) (s : Session Chat) :
    (takeReply names number (.ok (.obj members))).runIn s =
      (addReply names members (Dict.find "content" members)).runIn
        (remember (fun c => c.deliver number .sent) s) := rfl

theorem runIn_takeReply_none (h : Dict.find "content" members = none) (names : Names)
    (number : Nat) (s : Session Chat) :
    (takeReply names number (.ok (.obj members))).runIn s =
      (.error (.missingKey (.text "content")), remember (fun c => c.deliver number .sent) s) := by
  rw [runIn_takeReply, h]
  rfl

theorem runIn_takeReply_some {content : Json} (h : Dict.find "content" members = some content)
    (names : Names) (number : Nat) (s : Session Chat) :
    (takeReply names number (.ok (.obj members))).runIn s =
      (afterReply ((Json.member members "metadata").orElse (.obj []))).runIn
        (remember (fun c => c.add (c.replyMessage names members content))
          (remember (fun c => c.deliver number .sent) s)) := by
  rw [runIn_takeReply, h]
  rfl

end

/-- An answer is taken as a reply, or it is refused before it adds anything. -/
theorem extends_takeReply (hold : old.Numbered) {s : Session Chat}
    (h : Extends old (user.delivered .sending) [] s.host) (names : Names)
    (answer : Except Fault Json) :
    let r := (takeReply names user.number answer).runIn s
    ((∃ f, r.1 = .error f) ∧ ∃ d, Extends old (user.delivered d) [] r.2.host) ∨
      ∃ reply, IsReply answer reply ∧ Extends old (user.delivered .sent) [reply] r.2.host := by
  have hsent : Extends old (user.delivered .sent) [] (s.host.deliver user.number .sent) :=
    h.deliver hold .sent
  cases answer with
  | error f => exact Or.inl ⟨⟨f, rfl⟩, .sending, h⟩
  | ok j =>
    cases j with
    | obj members =>
      cases hcontent : Dict.find "content" members with
      | none =>
        rw [runIn_takeReply_none hcontent]
        exact Or.inl ⟨⟨_, rfl⟩, .sent, hsent⟩
      | some content =>
        rw [runIn_takeReply_some hcontent]
        refine Or.inr ⟨(s.host.deliver user.number .sent).replyMessage names members content,
          ⟨rfl, rfl, members, rfl, hcontent⟩, ?_⟩
        rw [host_afterReply]
        exact hsent.add rfl
    | _ => exact Or.inl ⟨⟨_, rfl⟩, .sent, hsent⟩

/-! ## The end of an exchange -/

/-- An exchange has ended, and its message has come as far as is said. -/
structure Ended (old : Chat) (user : Message) (answer : Except Fault Json) (d : Delivery)
    (c : Chat) : Prop where
  idle : c.loading = false
  extends_ : ∃ added, Extends old (user.delivered d) added c ∧
    Outcome user answer d (user.delivered d :: added)

section

variable {s : Session Chat} {answer : Except Fault Json}

/-- Whatever was added, a failure adds a notice and marks the message. -/
theorem ended_of_failure (hold : old.Numbered) {d : Delivery}
    (h : Extends old (user.delivered d) added s.host) (names : Names)
    (houtcome : ∀ notice, IsNotice sendError notice →
      Outcome user answer .failed (user.delivered .failed :: (added ++ [notice]))) :
    let r := Exchange.finish names user.number true s
    Ended old user answer r.1 r.2.host :=
  have hfailed := (h.deliver hold .failed).tell names sendError
  ⟨rfl, _, hfailed.wait false, houtcome _ (isNotice_compose _ names sendError)⟩

theorem ended_of_success (h : Extends old (user.delivered .sent) added s.host) (names : Names)
    (houtcome : Outcome user answer .sent (user.delivered .sent :: added)) :
    let r := Exchange.finish names user.number false s
    Ended old user answer r.1 r.2.host :=
  ⟨rfl, added, h.wait false, houtcome⟩

/-- After the reply only the user interface is missing. -/
theorem ended_shown (hold : old.Numbered) {reply : Message} (hreply : IsReply answer reply)
    (h : Extends old (user.delivered .sent) [reply] s.host) (names : Names)
    (shown : Except Fault Json) :
    let r := Exchange.shown names user.number shown s
    Ended old user answer r.1 r.2.host := by
  have hhost := host_showInterface names shown s
  unfold Exchange.shown
  generalize (showInterface names shown).runIn s = r at hhost
  obtain ⟨result, s'⟩ := r
  rcases hhost with hhost | ⟨⟨i, hi⟩, hhost⟩
  · have hsame : Extends old (user.delivered .sent) [reply] s'.host := hhost ▸ h
    cases result with
    | ok i => exact ended_of_success hsame names (.answered hreply)
    | error f => exact ended_of_failure hold hsame names fun _ => .broken hreply
  · obtain rfl : result = .ok i := hi
    have htold : Extends old (user.delivered .sent) _ s'.host := hhost ▸ h.tell names generateError
    exact ended_of_success htold names (.unshown hreply (isNotice_compose _ names generateError))

/-- An answer to the first request ends the exchange, or leads to the other request. -/
theorem ended_reply (hold : old.Numbered) (h : Extends old (user.delivered .sending) [] s.host)
    (names : Names) (answer : Except Fault Json) :
    (∃ d s', Exchange.reply names user.number answer s = (.ended d, s') ∧
      Ended old user answer d s'.host) ∨
    ∃ request s' reply, Exchange.reply names user.number answer s = (.asks request, s') ∧
      IsReply answer reply ∧ Extends old (user.delivered .sent) [reply] s'.host := by
  have htaken := extends_takeReply hold h names answer
  unfold Exchange.reply
  generalize (takeReply names user.number answer).runIn s = r at htaken
  obtain ⟨result, s'⟩ := r
  rcases htaken with ⟨⟨f, hf⟩, d, hextends⟩ | ⟨reply, hreply, hextends⟩
  · obtain rfl : result = .error f := hf
    exact Or.inl ⟨_, _, rfl, ended_of_failure hold hextends names fun _ => .failed⟩
  · match result with
    | .error f =>
      exact Or.inl ⟨_, _, rfl, ended_of_failure hold hextends names fun _ => .broken hreply⟩
    | .ok none => exact Or.inl ⟨_, _, rfl, ended_of_success hextends names (.answered hreply)⟩
    | .ok (some parameters) =>
      dsimp only
      cases interfaceRequest parameters with
      | ok request => exact Or.inr ⟨request, s', reply, rfl, hreply, hextends⟩
      | error f => exact Or.inl ⟨_, _, rfl, ended_shown hold hreply hextends names (.error f)⟩

end

/-! ## Sending -/

namespace Desk

variable {ω : Type}

theorem session_request (client : Client ω) (r : Request) (d : Desk ω) :
    (request client r d).2.session = d.session := by
  cases r <;> rfl

/-- The answer that a chat gets to the first request of an exchange. -/
def firstAnswer (names : Names) (client : Client ω) (content : Json) (d : Desk ω) :
    Except Fault Json :=
  let (_, r, s) := Exchange.begin names content d.session
  (request client r { d with session := s }).1

theorem ended_complete (hold : old.Numbered) {d : Desk ω}
    (h : Extends old (user.delivered .sending) [] d.session.host) (names : Names)
    (client : Client ω) (answer : Except Fault Json) :
    let r := complete names client user.number answer d
    Ended old user answer r.1 r.2.session.host := by
  unfold complete
  rcases ended_reply hold h names answer with
    ⟨delivery, s', hreply, hended⟩ | ⟨r, s', reply, hreply, hisReply, hextends⟩
  · rw [hreply]
    exact hended
  · rw [hreply]
    have hsession := session_request client r { d with session := s' }
    dsimp only
    generalize request client r { d with session := s' } = answered at hsession ⊢
    obtain ⟨answer', d'⟩ := answered
    have hextends' : Extends old (user.delivered .sent) [reply] d'.session.host := by
      rw [show d'.session = s' from hsession]
      exact hextends
    exact ended_shown hold hisReply hextends' names answer'

/-- **However it goes, an exchange ends** in one of four ways, and nobody waits any more. -/
theorem ended_send (names : Names) (client : Client ω) (content : Json) (d : Desk ω)
    (h : d.session.host.Numbered) :
    let user := d.session.host.compose names content .user none
    let r := d.send names client content
    ∃ delivery, r.1 = user.delivered delivery ∧
      Ended d.session.host user (d.firstAnswer names client content) delivery
        r.2.session.host := by
  intro user r
  let begun := Exchange.begin names content d.session
  let answered := request client begun.2.1 { d with session := begun.2.2 }
  have hbegun : Extends d.session.host (user.delivered .sending) [] begun.2.2.host :=
    ⟨rfl, rfl, rfl, Nat.lt_succ_self _, List.forall_mem_nil _⟩
  have hanswered : Extends d.session.host (user.delivered .sending) []
      answered.2.session.host := by
    rw [show answered.2.session = begun.2.2 from session_request ..]
    exact hbegun
  have hended : Ended d.session.host user (d.firstAnswer names client content) _ _ :=
    ended_complete h hanswered names client answered.1
  exact ⟨_, rfl, hended⟩

end Desk

end Chat

end AssistantUI
