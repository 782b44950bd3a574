import AssistantUI.Fault
import AssistantUI.Text.Casing
import AssistantUI.Text.Word

/-!
# The agent

The agent answers a message by the first of a list of rules that knows one of its words.
A rule has a fixed reply, and the replies that are about user interfaces come with the
parameters of one to show. A message that no rule knows is echoed.
-/

namespace AssistantUI.Agent

/-- What the agent answers. -/
structure Reply where
  content : String
  /-- The parameters of the user interface to show, if one is suggested. -/
  suggestion : Option (List (String × Json))
  deriving DecidableEq

/-- The action that a suggestion names. -/
def suggestedAction : String := "generateUI"

/-- What goes along with the text of a reply. -/
def Reply.metadata (r : Reply) : Json :=
  match r.suggestion with
  | none => .obj []
  | some ps => .obj [("suggestedAction", .str suggestedAction), ("parameters", .obj ps)]

/-- A reply to messages with certain words. -/
structure Rule where
  keywords : List String
  reply : Reply

/-- Does the rule know one of the words of a text in lower case? -/
def Rule.knows (r : Rule) (text : String) : Bool :=
  r.keywords.any fun word => Text.hasWord word.toList text.toList

/-- What the agent says to a greeting. -/
def greeting : String := "Hello! I'm High5, your AI assistant. How can I help you today?"

/-- The parameters of a form to get in touch. -/
def contactForm : List (String × Json) :=
  [("type", .str "form"), ("fields", .arr [.str "name", .str "email", .str "message"])]

/-- The rules; the first one that knows a word of the message answers it. -/
def rules : List Rule :=
  [ { keywords := ["hello", "hi"], reply := ⟨greeting, none⟩ },
    { keywords := ["help"]
      reply := ⟨"I can help you with various tasks. Just let me know what you need!", none⟩ },
    { keywords := ["ui", "interface"]
      reply := ⟨"I can generate UI components dynamically based on your needs. " ++
        "Would you like me to create a form, dashboard, chart, or table?", some contactForm⟩ },
    { keywords := ["form"]
      reply := ⟨"I'll create a form for you. What fields would you like to include?",
        some contactForm⟩ },
    { keywords := ["dashboard"]
      reply := ⟨"I'll generate a dashboard for you with some sample data.",
        some [("type", .str "dashboard")]⟩ },
    { keywords := ["chart"]
      reply := ⟨"I'll create a chart visualization for you.",
        some [("type", .str "chart"), ("chartType", .str "bar")]⟩ },
    { keywords := ["table"]
      reply := ⟨"I'll generate a data table for you.", some [("type", .str "table")]⟩ } ]

/-- The reply to a message that no rule knows. -/
def echo (message : String) : Reply :=
  ⟨"I've processed your message: \"" ++ message ++ "\". In a full implementation, " ++
    "I would use an LLM or other AI service to generate a more contextual response.", none⟩

/-- The rule that answers a message. -/
def rule? (message : String) : Option Rule := rules.find? fun r => r.knows (Text.lower message)

/-- The reply to a message. -/
def respond (message : String) : Reply :=
  match rule? message with
  | some r => r.reply
  | none => echo message

/-- The reply to a message that should be a text. -/
def respondTo : Json → Except Fault Reply
  | .str message => .ok (respond message)
  | j => .error (.onAttribute j "lower")

example : (respond "Oh, HI there").content = greeting := by decide +kernel

end AssistantUI.Agent
