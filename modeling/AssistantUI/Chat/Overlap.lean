import AssistantUI.Chat.Exchange

/-!
# Exchanges that overlap

A chat does not wait for one exchange to end before the next may begin: messages can be
sent, and a conversation begun, while earlier messages still wait for an answer. The
service answers in any order. `Overlap.run` plays any such history from its moves; between
two moves every exchange is either over or waits for the answer to its last request.
-/

namespace AssistantUI.Chat

/-- An exchange that waits for an answer. -/
structure Waiting where
  /-- The number of the message that it sends. -/
  number : Nat
  /-- What it asked last. -/
  request : Request

/-- Goes on from the answer to what was asked last. -/
def Waiting.resume (names : Names) (answer : Except Fault Json) (w : Waiting)
    (s : Session Chat) : Progress × Session Chat :=
  match w.request with
  | .reply .. => Exchange.reply names w.number answer s
  | .interface .. => Exchange.ended (Exchange.shown names w.number answer s)

/-- The session of a chat, and its exchanges that are not over, the one begun first in front. -/
structure Overlap where
  session : Session Chat
  waiting : List Waiting

/-- One thing that happens to a chat. -/
inductive Move where
  /-- The user sends a message. -/
  | send (content : Json)
  /-- One of the exchanges that wait, by place, gets an answer. -/
  | answer (i : Nat) (answer : Except Fault Json)
  /-- The user begins a conversation. -/
  | newConversation

namespace Overlap

/-- A chat of which nothing was asked yet. -/
def start (names : Names) : Overlap := ⟨Chat.start names, []⟩

/-- Puts a message on its way. -/
def send (names : Names) (content : Json) (o : Overlap) : Overlap :=
  let (message, request, s) := Exchange.begin names content o.session
  ⟨s, o.waiting ++ [⟨message.number, request⟩]⟩

/-- Gives an exchange its answer; where none waits there is nothing to answer. -/
def answer (names : Names) (i : Nat) (answer : Except Fault Json) (o : Overlap) : Overlap :=
  match o.waiting[i]? with
  | none => o
  | some w =>
    match w.resume names answer o.session with
    | (.asks request, s) => ⟨s, o.waiting.set i ⟨w.number, request⟩⟩
    | (.ended _, s) => ⟨s, o.waiting.eraseIdx i⟩

/-- Makes a move. -/
def step (names : Names) (o : Overlap) : Move → Overlap
  | .send content => o.send names content
  | .answer i answer => o.answer names i answer
  | .newConversation => { o with session := Chat.newConversation names o.session }

/-- Makes moves one after the other. -/
def run (names : Names) (o : Overlap) (moves : List Move) : Overlap := moves.foldl (step names) o

end Overlap

end AssistantUI.Chat
