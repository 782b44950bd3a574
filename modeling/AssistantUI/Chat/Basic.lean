import AssistantUI.Json.Writer
import AssistantUI.Session.Basic

/-!
# Chats

A chat keeps the messages of the present conversation and shows at most one user interface.
It is the host of a session: when the user interface submits something, the chat takes it
down and puts what was submitted among the messages. Messages are numbered in the order in
which they are made, so that one on its way can be found again.
-/

namespace AssistantUI

/-- Who a message is from. -/
inductive Sender where
  | user
  | agent
  deriving DecidableEq

/-- How far a message of the user has come. -/
inductive Delivery where
  | sending
  | sent
  | failed
  deriving DecidableEq

/-- A message of a conversation. -/
structure Message where
  /-- How many messages were made before it. -/
  number : Nat
  id : Json
  content : Json
  sender : Sender
  delivery : Option Delivery
  /-- What the service sent along with it; null for other messages. -/
  metadata : Json
  deriving DecidableEq

/-- A conversation, without its messages. -/
structure Conversation where
  id : String
  title : String
  active : Bool
  deriving DecidableEq

/-- A conversation that was just begun. -/
def Conversation.new (id : String) : Conversation := ⟨id, "New conversation", true⟩

/-- What a chat remembers beside what it shows. -/
structure Chat where
  /-- The messages of the present conversation. -/
  messages : List Message
  conversations : List Conversation
  /-- Is the service being waited for? -/
  loading : Bool
  /-- How many messages were made. -/
  made : Nat
  /-- How many conversations were begun after the first one. -/
  begun : Nat

namespace Chat

/-- New names for the things that a chat makes, by how many were made before. -/
structure Names where
  message : Nat → String
  conversation : Nat → String
  mount : Nat → String

/-! ## Texts -/

/-- The first message of each conversation. -/
def welcomeText : String := "Hello! I am High5, your AI assistant. How can I help you today?"

/-- What is said where a message could not be processed. -/
def sendError : String := "Sorry, there was an error processing your message. Please try again."

/-- What is said where a user interface could not be generated. -/
def generateError : String :=
  "Sorry, there was an error generating the UI components. Please try again."

/-- What a submission says. -/
def submissionText (data : Json) : String := "Form submitted with data: " ++ data.write .block

/-! ## Messages -/

/-- The next message, under a name of the chat's own. -/
def compose (c : Chat) (names : Names) (content : Json) (sender : Sender)
    (delivery : Option Delivery) : Message :=
  ⟨c.made, .str (names.message c.made), content, sender, delivery, .null⟩

/-- Adds a message that was composed last. -/
def add (c : Chat) (m : Message) : Chat :=
  { c with messages := c.messages ++ [m], made := c.made + 1 }

/-- Adds a message that the agent did not send, in its name. -/
def tell (c : Chat) (names : Names) (text : String) : Chat :=
  c.add (c.compose names (.str text) .agent none)

/-- Notes how far a message has come, if it is still among those of the present conversation. -/
def deliver (c : Chat) (number : Nat) (d : Delivery) : Chat :=
  { c with
    messages := c.messages.map fun m =>
      if m.number = number then { m with delivery := some d } else m }

/-- Starts the messages over. -/
def welcome (c : Chat) (names : Names) : Chat := ({ c with messages := [] }).tell names welcomeText

/-! ## Conversations -/

/-- The name of the first conversation. -/
def firstId : String := "1"

/-- The conversation that messages are sent for: the first one that is active. -/
def conversationId (c : Chat) : String :=
  match c.conversations.find? Conversation.active with
  | some conversation => conversation.id
  | none => firstId

/-- Begins a conversation in front of the others, which are not active any more. -/
def begin (c : Chat) (names : Names) : Chat :=
  ({ c with
    conversations := Conversation.new (names.conversation c.begun) ::
      c.conversations.map fun (other : Conversation) => { other with active := false }
    begun := c.begun + 1 }).welcome names

/-- A chat with one conversation, in which only the welcome was said. -/
def new (names : Names) : Chat := welcome ⟨[], [Conversation.new firstId], false, 0, 0⟩ names

/-! ## The chat as host of a session -/

/-- The event by which a user interface submits something. -/
def submitEvent : String := "submit"

/--
What was submitted: a flat form tells what it holds, and a tree tells it as the state that
goes along with its event.
-/
def submitted (s : Session Chat) (payload : Json) : Except Fault Json :=
  match s.currentMount.bind Mount.definition with
  | some (.flat ..) => .ok payload
  | _ => do return (Dict.find "state" (← payload.members "get")).getD (.obj [])

/-- What the chat does when it is told of an event. -/
def onEvent (names : Names) (name : String) (payload : Json) (s : Session Chat) :
    Session.Code Chat :=
  if name = submitEvent then
    match submitted s payload with
    | .error f => .raise f
    | .ok data =>
      let message := s.host.compose names (.str (submissionText data)) .user (some .sent)
      .andThen (.remember (s.host.add message)) fun _ _ =>
        .andThen (.mount (.json .null)) fun _ _ => .done
  else .done

/-- The chat as a host, beside others that listen to the state of what is mounted. -/
def hostWith (names : Names) (onChange : Nat → Nat → State → Session Chat → Session.Code Chat) :
    Session.Host Chat where
  mountId := names.mount
  onEvent := some fun _ name payload => onEvent names name payload.toJson
  onChange := onChange

/-- The chat as a host, with nobody else listening. -/
def host (names : Names) : Session.Host Chat := hostWith names fun _ _ _ _ => .done

/-- A session of a chat that shows nothing yet. -/
def start (names : Names) : Session Chat := Session.new (new names)

/-- Changes what the chat of a session remembers. -/
def remember (f : Chat → Chat) (s : Session Chat) : Session Chat := { s with host := f s.host }

/-- Begins a conversation, and takes down what is shown. -/
def newConversation (names : Names) (s : Session Chat) : Session Chat :=
  (remember (fun c => c.begin names) s).unmount

end Chat

end AssistantUI
