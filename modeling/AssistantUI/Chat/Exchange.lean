import AssistantUI.Agent
import AssistantUI.Chat.Basic
import AssistantUI.Client

/-!
# Exchanges with the service

Sending a message takes up to two requests to the service: one for a reply, and one for the
user interface that the reply may suggest. Between a request and its answer anything else
may happen to the chat, so an exchange is cut at its requests: `Exchange.begin` makes the
first, and `Exchange.reply` and `Exchange.shown` go on from an answer. Whatever the
service answers, and however it fails, an exchange comes to an end that the user is told of.
-/

namespace AssistantUI.Chat

/-- What a chat asks of the service. -/
inductive Request where
  /-- To answer a message of a conversation. -/
  | reply (message : Json) (conversation : String)
  /-- To generate a user interface of a type. -/
  | interface (type parameters : Json)

/-- What comes of an answer. -/
inductive Progress where
  /-- Another request. -/
  | asks (request : Request)
  /-- The end, and how far the message has come. -/
  | ended (delivery : Delivery)

/-! ## User interfaces -/

/-- The request for a user interface with these parameters, which have to be an object. -/
def interfaceRequest (parameters : Json) : Except Fault Request := do
  let members ← parameters.members "get"
  return .interface ((Dict.find "type" members).getD (.str "")) parameters

/--
Shows the user interface of an answer, and gives the number of its mount. That there is no
answer is told; an answer from which nothing can be mounted is a fault.
-/
def showInterface (names : Names) (answer : Except Fault Json) : Act (Session Chat) (Option Nat) :=
  match answer with
  | .error _ => do
    modify (remember fun c => c.tell names generateError)
    return none
  | .ok j => do
    let members ← j.members "get"
    fun s => Session.mount (host names) (.json (Json.member members "components")) s

/-! ## Replies -/

/--
Adds the reply of an answer, and gives the parameters of the user interface that it suggests.
If it suggests none, what is shown is taken down.
-/
def takeReply (names : Names) (number : Nat) (answer : Except Fault Json) :
    Act (Session Chat) (Option Json) := do
  let answer ← answer
  modify (remember fun c => c.deliver number .sent)
  let members ← answer.members "get"
  let metadata := (Json.member members "metadata").orElse (.obj [])
  match Dict.find "content" members with
  | none => throw (.missingKey (.text "content"))
  | some content =>
    modify (remember fun c =>
      let m := c.compose names content .agent none
      c.add { m with id := (Json.member members "messageId").orElse m.id, metadata })
    let extras ← metadata.members "get"
    if Json.member extras "suggestedAction" = .str Agent.suggestedAction then
      return some ((Json.member extras "parameters").orElse (.obj []))
    else
      modify Session.unmount
      return none

/-! ## Exchanges -/

namespace Exchange

/-- Ends an exchange, and gives how far the message has come. -/
def finish (names : Names) (number : Nat) (failed : Bool) (s : Session Chat) :
    Delivery × Session Chat :=
  if failed then
    (.failed, remember (fun c =>
      { (c.deliver number .failed).tell names sendError with loading := false }) s)
  else (.sent, remember (fun c => { c with loading := false }) s)

/-- Puts a message of the user on its way; gives it, and the request for a reply. -/
def begin (names : Names) (content : Json) (s : Session Chat) : Message × Request × Session Chat :=
  let m := s.host.compose names content .user (some .sending)
  let s := remember (fun c => { c.add m with loading := true }) s
  (m, .reply content s.host.conversationId, s)

/-- Goes on from the answer to the request for a user interface, which is the end. -/
def shown (names : Names) (number : Nat) (answer : Except Fault Json) (s : Session Chat) :
    Delivery × Session Chat :=
  match (showInterface names answer).runIn s with
  | (.ok _, s) => finish names number false s
  | (.error _, s) => finish names number true s

/-- The end as progress. -/
def ended (r : Delivery × Session Chat) : Progress × Session Chat := (.ended r.1, r.2)

/-- Goes on from the answer to the request for a reply. -/
def reply (names : Names) (number : Nat) (answer : Except Fault Json) (s : Session Chat) :
    Progress × Session Chat :=
  match (takeReply names number answer).runIn s with
  | (.error _, s) => ended (finish names number true s)
  | (.ok none, s) => ended (finish names number false s)
  | (.ok (some parameters), s) =>
    match interfaceRequest parameters with
    | .ok request => (.asks request, s)
    | .error f => ended (shown names number (.error f) s)

end Exchange

/-! ## A chat and its client -/

/-- A chat, and the world of the client by which it reaches the service. -/
structure Desk (ω : Type) where
  session : Session Chat
  client : ω

namespace Desk

variable {ω : Type}

/-- Makes a request. -/
def request (client : Client ω) (r : Request) (d : Desk ω) : Except Fault Json × Desk ω :=
  let (answer, w) := match r with
    | .reply message conversation =>
      (client.send message (.str conversation) Service.anonymous).runIn d.client
    | .interface type parameters =>
      (client.generate type parameters Service.anonymous).runIn d.client
  (answer, { d with client := w })

/-- Goes through the rest of an exchange after the answer to its first request. -/
def complete (names : Names) (client : Client ω) (number : Nat) (answer : Except Fault Json)
    (d : Desk ω) : Delivery × Desk ω :=
  match Exchange.reply names number answer d.session with
  | (.ended delivery, s) => (delivery, { d with session := s })
  | (.asks r, s) =>
    let (answer, d) := request client r { d with session := s }
    let (delivery, s) := Exchange.shown names number answer d.session
    (delivery, { d with session := s })

/-- Sends a message, and gives it as it is when the exchange has ended. -/
def send (names : Names) (client : Client ω) (content : Json) (d : Desk ω) : Message × Desk ω :=
  let (message, r, s) := Exchange.begin names content d.session
  let (answer, d) := request client r { d with session := s }
  let (delivery, d) := complete names client message.number answer d
  ({ message with delivery := some delivery }, d)

/-- Asks for a user interface and shows it; gives the number of its mount. -/
def generate (names : Names) (client : Client ω) (parameters : Json) (d : Desk ω) :
    Except Fault (Option Nat) × Desk ω :=
  let (answer, d) := match interfaceRequest parameters with
    | .ok r => request client r d
    | .error f => (.error f, d)
  let (r, s) := (showInterface names answer).runIn d.session
  (r, { d with session := s })

end Desk

end AssistantUI.Chat
