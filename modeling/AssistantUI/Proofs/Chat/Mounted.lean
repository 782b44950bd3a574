import AssistantUI.Chat.Overlap
import AssistantUI.Proofs.Chat.Exchange

/-!
# What an exchange does to a session

An exchange remembers things, and apart from that it touches the session of a chat in two ways
only: it takes down what is shown, or it mounts something in its place. Whatever a session keeps
when that happens (`Keeps`) it keeps throughout an exchange, at every request that the exchange
waits for, and when exchanges overlap.

Properties of the memory itself are kept as well if they are by the three things that an exchange
writes there (`Endures`). This is the weaker demand, so the exchange is gone through for it.
-/

namespace AssistantUI.Chat

/-- A property of sessions that a chat keeps as it remembers things, takes down and mounts. -/
structure Keeps (P : Session Chat → Prop) : Prop where
  remember {s} (c : Chat) : P s → P { s with host := c }
  unmount {s} : P s → P s.unmount
  start {s} (id : String) (definition : Option Definition) (issues : List Issue) : P s →
    s.current = none → P (s.start (Mount.start id definition issues))

/-- Every mount hears its own store first, whatever a chat does. -/
theorem keeps_heard : Keeps Session.Heard where
  remember _ h := h
  unmount := Session.heard_unmount
  start id definition issues h _ := Session.heard_start h (Mount.heard_start id definition issues)

/-! ## What an exchange does -/

/-- A property of sessions that is kept by all that an exchange does. -/
structure Endures (P : Session Chat → Prop) : Prop where
  deliver {s} (number : Nat) (d : Delivery) : P s →
    P (Chat.remember (fun c => c.deliver number d) s)
  add {s} {m : Message} : m.number = s.host.made → P s →
    P (Chat.remember (fun c => c.add m) s)
  wait {s} (loading : Bool) : P s →
    P (Chat.remember (fun c => { c with loading := loading }) s)
  unmount {s} : P s → P s.unmount
  start {s} (id : String) (definition : Option Definition) (issues : List Issue) : P s →
    s.current = none → P (s.start (Mount.start id definition issues))

namespace Endures

variable {P : Session Chat → Prop} (h : Endures P) {s : Session Chat}
include h

theorem mount (host : Session.Host Chat) (what : Mountable) (hs : P s) :
    P (Session.mount host what s).2 := by
  rcases Session.session_mount host s what with hsame | ⟨_, _, hstarted⟩
  · rw [hsame]
    exact h.unmount hs
  · rw [hstarted]
    exact h.start _ _ _ (h.unmount hs) (Session.current_unmount s)

theorem tell (names : Names) (text : String) (hs : P s) :
    P (remember (fun c => c.tell names text) s) :=
  h.add (m := s.host.compose names (.str text) .agent none) rfl hs

theorem showInterface (names : Names) (answer : Except Fault Json) (hs : P s) :
    P ((Chat.showInterface names answer).runIn s).2 := by
  cases answer with
  | error f => exact h.tell names generateError hs
  | ok j =>
    cases j with
    | obj members => exact h.mount _ _ hs
    | _ => exact hs

theorem afterReply (metadata : Json) (hs : P s) : P ((Chat.afterReply metadata).runIn s).2 := by
  cases metadata with
  | obj extras =>
    show P ((if _ then _ else _ : Act (Session Chat) (Option Json)).runIn s).2
    split
    · exact hs
    · exact h.unmount hs
  | _ => exact hs

theorem takeReply (names : Names) (number : Nat) (answer : Except Fault Json) (hs : P s) :
    P ((Chat.takeReply names number answer).runIn s).2 := by
  cases answer with
  | error f => exact hs
  | ok j =>
    have hsent := h.deliver number .sent hs
    cases j with
    | obj members =>
      cases hcontent : Dict.find "content" members with
      | none =>
        rw [runIn_takeReply_none hcontent]
        exact hsent
      | some content =>
        rw [runIn_takeReply_some hcontent]
        exact h.afterReply _ (h.add (m := replyMessage _ names members content) rfl hsent)
    | _ => exact hsent

theorem begin (names : Names) (content : Json) (hs : P s) :
    P (Exchange.begin names content s).2.2 :=
  h.wait true (h.add (m := s.host.compose names content .user (some .sending)) rfl hs)

theorem finish (names : Names) (number : Nat) (failed : Bool) (hs : P s) :
    P (Exchange.finish names number failed s).2 := by
  cases failed with
  | false => exact h.wait false hs
  | true => exact h.wait false (h.tell names sendError (h.deliver number .failed hs))

theorem shown (names : Names) (number : Nat) (answer : Except Fault Json) (hs : P s) :
    P (Exchange.shown names number answer s).2 := by
  have hshown := h.showInterface names answer hs
  unfold Exchange.shown
  generalize (Chat.showInterface names answer).runIn s = r at hshown
  obtain ⟨result, s'⟩ := r
  cases result with
  | ok i => exact h.finish names number false hshown
  | error f => exact h.finish names number true hshown

theorem reply (names : Names) (number : Nat) (answer : Except Fault Json) (hs : P s) :
    P (Exchange.reply names number answer s).2 := by
  have htaken := h.takeReply names number answer hs
  unfold Exchange.reply
  generalize (Chat.takeReply names number answer).runIn s = r at htaken
  obtain ⟨result, s'⟩ := r
  match result with
  | .error f => exact h.finish names number true htaken
  | .ok none => exact h.finish names number false htaken
  | .ok (some parameters) =>
    dsimp only
    cases interfaceRequest parameters with
    | ok request => exact htaken
    | error f => exact h.shown names number (.error f) htaken

theorem resume (names : Names) (answer : Except Fault Json) (w : Waiting) (hs : P s) :
    P (w.resume names answer s).2 := by
  unfold Waiting.resume
  cases w.request with
  | reply => exact h.reply names w.number answer hs
  | interface => exact h.shown names w.number answer hs

end Endures

/-- What is kept however the memory changes is kept by an exchange. -/
theorem Keeps.endures {P : Session Chat → Prop} (h : Keeps P) : Endures P where
  deliver _ _ := h.remember _
  add _ := h.remember _
  wait _ := h.remember _
  unmount := h.unmount
  start := h.start

/-- A property of the memory is kept by an exchange if whatever it writes keeps it. -/
theorem endures_host {P : Chat → Prop}
    (deliver : ∀ {c} (number : Nat) (d : Delivery), P c → P (c.deliver number d))
    (add : ∀ {c} {m : Message}, m.number = c.made → P c → P (c.add m))
    (wait : ∀ {c} (loading : Bool), P c → P { c with loading := loading }) :
    Endures fun s => P s.host where
  deliver number d := deliver number d
  add := add
  wait loading := wait loading
  unmount {s} hs := by
    rw [Session.host_unmount]
    exact hs
  start _ _ _ hs _ := hs

/-- A request is the business of the client alone. -/
theorem of_request {P : Session Chat → Prop} {ω : Type} {d : Desk ω} (hd : P d.session)
    (client : Client ω) (r : Request) : P (Desk.request client r d).2.session := by
  rw [Desk.session_request]
  exact hd

namespace Keeps

variable {P : Session Chat → Prop} (h : Keeps P) {s : Session Chat}
include h

theorem newConversation (names : Names) (hs : P s) : P (Chat.newConversation names s) :=
  h.unmount (h.remember _ hs)

theorem showInterface (names : Names) (answer : Except Fault Json) (hs : P s) :
    P ((Chat.showInterface names answer).runIn s).2 := h.endures.showInterface names answer hs

/-! ## Exchanges with a client -/

section

variable {ω : Type} {d : Desk ω} (hd : P d.session)
include hd

theorem send (names : Names) (client : Client ω) (content : Json) :
    P (d.send names client content).2.session := by
  let begun := Exchange.begin names content d.session
  let asking : Desk ω := { d with session := begun.2.2 }
  have hasking : P asking.session := h.endures.begin names content hd
  let answered := Desk.request client begun.2.1 asking
  show P (Desk.complete names client begun.1.number answered.1 answered.2).2.session
  have hreply := h.endures.reply names begun.1.number answered.1
    (of_request hasking client begun.2.1)
  unfold Desk.complete
  generalize Exchange.reply names begun.1.number answered.1 _ = progress at hreply
  obtain ⟨progress, s'⟩ := progress
  cases progress with
  | ended delivery => exact hreply
  | asks r =>
    exact h.endures.shown names _ _
      (of_request (d := { answered.2 with session := s' }) hreply client r)

theorem generate (names : Names) (client : Client ω) (parameters : Json) :
    P (d.generate names client parameters).2.session := by
  unfold Desk.generate
  cases interfaceRequest parameters with
  | ok r => exact h.showInterface names _ (of_request hd client r)
  | error f => exact h.showInterface names _ hd

end

/-! ## Exchanges that overlap -/

theorem step (names : Names) {o : Overlap} (ho : P o.session) (move : Move) :
    P (o.step names move).session := by
  cases move with
  | send content => exact h.endures.begin names content ho
  | newConversation => exact h.newConversation names ho
  | answer i answer =>
    show P (o.answer names i answer).session
    unfold Overlap.answer
    cases o.waiting[i]? with
    | none => exact ho
    | some w =>
      have hresume := h.endures.resume names answer w ho
      dsimp only
      generalize w.resume names answer o.session = r at hresume
      obtain ⟨progress, s'⟩ := r
      cases progress with
      | asks request => exact hresume
      | ended delivery => exact hresume

end Keeps

end AssistantUI.Chat
