import AssistantUI.Agent
import AssistantUI.Build.Tree
import AssistantUI.Documents
import AssistantUI.Settings

/-!
# The service

The service does two things. It has the agent answer a message, and keeps both the
message and the answer; and it builds a user interface, and keeps it too. What it is
given may be any JSON value. A request without what it cannot do without is refused before
anything is kept; any other failure leaves what was kept before it.
-/

namespace AssistantUI

/-- Names for new documents and times of day, by how many were asked for before. -/
structure Supply where
  id : Nat → String
  time : Nat → String

/-- What the service works with. -/
structure Service (ω : Type) where
  storage : Storage ω
  settings : Settings
  supply : Supply

namespace Service

variable {ω : Type}

/-- The documents, and how many names and times were asked for. -/
structure State (ω : Type) where
  documents : ω
  ids : Nat
  times : Nat

/-- A service that has not been asked anything yet. -/
def State.new (documents : ω) : State ω := ⟨documents, 0, 0⟩

variable (service : Service ω)

/-! ## Documents of the service -/

/-- A new name. -/
def freshId : Act (State ω) String := fun s =>
  (.ok (service.supply.id s.ids), { s with ids := s.ids + 1 })

/-- The time of day. -/
def now : Act (State ω) String := fun s =>
  (.ok (service.supply.time s.times), { s with times := s.times + 1 })

/-- Does something with the documents. -/
def onDocuments {α : Type} (act : Act ω α) : Act (State ω) α := fun s =>
  let (r, documents) := act.runIn s.documents
  (r, { s with documents })

/-- Puts a document into a table. -/
def put (table : Key) (d : Document) : Act (State ω) Unit :=
  onDocuments (service.storage.put table d)

/-- Keeps a message. -/
def storeMessage (d : Document) : Act (State ω) Unit :=
  service.put (.text service.settings.messagesTable) d

/-- Keeps a user interface. -/
def storeComponent (d : Document) : Act (State ω) Unit :=
  service.put (.text service.settings.componentsTable) d

/-- The messages of a conversation, the newest first, as many as asked for or as is usual. -/
def history (conversation : Json) (limit : Option Int) : Act (State ω) (List Document) := do
  let limit ← match limit with
    | some n => pure n
    | none => service.settings.historyLimit
  onDocuments (service.storage.query
    { table := .text service.settings.messagesTable
      index := .text "conversationId"
      value := conversation
      limit := some limit
      newestFirst := true })

/-- The user interfaces of a type. -/
def componentsOfType (type : Json) (limit : Option Int) : Act (State ω) (List Document) :=
  onDocuments (service.storage.query
    { table := .text service.settings.componentsTable
      index := .text "type"
      value := type
      limit })

/-! ## Requests -/

/-- An answer that says what went wrong. -/
def errorBody (text : String) : Json := .obj [("error", .str text)]

/-- The refusal of a request without what it cannot do without. -/
def missingFields : Fault := .refused 400 (errorBody "Missing required fields")

/-- Who asks, where a request does not say. -/
def anonymous : Json := .str "anonymous"

/-- What the service answers to a message. -/
structure Processed where
  messageId : String
  content : String
  metadata : Json
  timestamp : String

/-- The answer to a message as JSON. -/
def Processed.toJson (p : Processed) : Json :=
  .obj [("messageId", .str p.messageId), ("content", .str p.content), ("metadata", p.metadata),
    ("timestamp", .str p.timestamp)]

/-- The document of a message of the user. -/
def userMessage (id : String) (conversation user message : Json) (time : String) : Document :=
  Dict.ofList [("id", .str id), ("conversationId", conversation), ("userId", user),
    ("content", message), ("sender", .str "user"), ("timestamp", .str time)]

/-- The document of a reply of the agent. -/
def agentMessage (id : String) (conversation user : Json) (reply : Agent.Reply) (time : String) :
    Document :=
  Dict.ofList [("id", .str id), ("conversationId", conversation), ("userId", user),
    ("content", .str reply.content), ("sender", .str "agent"), ("timestamp", .str time),
    ("metadata", reply.metadata)]

/-- Has the agent answer a message, and keeps both. -/
def process (message conversation user : Json) : Act (State ω) Processed := do
  unless message.truthy && conversation.truthy do throw missingFields
  let user := user.orElse anonymous
  let id ← service.freshId
  let time ← service.now
  service.storeMessage (userMessage id conversation user message time)
  let _ ← service.history conversation none
  let reply ← Agent.respondTo message
  let id ← service.freshId
  let time ← service.now
  service.storeMessage (agentMessage id conversation user reply time)
  return ⟨id, reply.content, reply.metadata, time⟩

/-- What the service answers to a request for a user interface. -/
structure Generated where
  componentId : String
  type : Json
  components : Json
  timestamp : String

/-- The answer to a request for a user interface as JSON. -/
def Generated.toJson (g : Generated) : Json :=
  .obj [("componentId", .str g.componentId), ("type", g.type), ("components", g.components),
    ("timestamp", .str g.timestamp)]

/-- The document of a user interface. -/
def component (id : String) (type user parameters components : Json) (time : String) : Document :=
  Dict.ofList [("id", .str id), ("type", type), ("userId", user), ("parameters", parameters),
    ("components", components), ("timestamp", .str time)]

/-- Builds a user interface, and keeps it. -/
def generate (type parameters user : Json) : Act (State ω) Generated := do
  unless type.truthy do throw missingFields
  let components ← Build.envelope type (parameters.orElse (.obj []))
  let id ← service.freshId
  let time ← service.now
  service.storeComponent (component id type (user.orElse anonymous) parameters components time)
  return ⟨id, type, components, time⟩

end Service

end AssistantUI
