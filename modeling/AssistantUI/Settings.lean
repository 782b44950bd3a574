import AssistantUI.Json.Access
import AssistantUI.Script
import AssistantUI.Text.Casing
import AssistantUI.Text.Integer

/-!
# Settings

Settings are variables of the environment. They are read whenever they are asked for, so
that a change takes effect at once, and a variable that cannot be read as what it stands
for is a fault of the operation that asked.
-/

namespace AssistantUI

/-- The variables that settings are read from. -/
inductive Variable where
  /-- The stage of deployment. -/
  | stage
  | host
  | bindPort
  /-- The first part of the names of the tables. -/
  | table
  | historyLimit
  | logLevel
  | apiBaseUrl
  deriving DecidableEq

/-- The name of a variable. -/
def Variable.name : Variable → String
  | stage => "HIGH5_ENV"
  | host => "HIGH5_HOST"
  | bindPort => "HIGH5_PORT"
  | table => "HIGH5_TABLE"
  | historyLimit => "HIGH5_HISTORY_LIMIT"
  | logLevel => "HIGH5_LOG_LEVEL"
  | apiBaseUrl => "HIGH5_API_BASE_URL"

/-- All variables. -/
def Variable.all : List Variable :=
  [stage, host, bindPort, table, historyLimit, logLevel, apiBaseUrl]

/-- The variables of the environment that are set. -/
structure Settings where
  values : Dict String String

namespace Settings

/-- The settings when no variable is set. -/
def default : Settings := ⟨∅⟩

instance : Inhabited Settings := ⟨default⟩

/-! ## Reading -/

/-- The text of a variable, or a default if it is not set. -/
def text (s : Settings) (v : Variable) (default : String) : String :=
  (s.values.get? v.name).getD default

/-- The number in a variable, or a default if it is not set or blank. -/
def number (s : Settings) (v : Variable) (default : Int) : Except Fault Int :=
  match s.values.get? v.name with
  | none => .ok default
  | some raw =>
    if raw.toList.all Text.isBlank then .ok default
    else match Text.integer? raw with
      | some n => .ok n
      | none => .error (.setting (v.name ++ " must be an integer, got " ++ Json.quoted raw))

/-- The stages of deployment. -/
def stages : List String := ["dev", "ci", "prod"]

/-- The stage of deployment, in lower case. -/
def stage (s : Settings) : Except Fault String :=
  let value := Text.lower (s.text .stage "dev")
  if stages.contains value then .ok value
  else .error (.setting (Variable.stage.name ++ " must be one of " ++ ", ".intercalate stages ++
    ", got " ++ Json.quoted value))

def host (s : Settings) : String := s.text .host "localhost"

def bindPort (s : Settings) : Except Fault Int := s.number .bindPort 8000

def table (s : Settings) : String := s.text .table "high5"

/-- Where messages are kept. -/
def messagesTable (s : Settings) : String := s.table ++ "-messages"

/-- Where user interfaces are kept. -/
def componentsTable (s : Settings) : String := s.table ++ "-ui-components"

/-- How many messages of a conversation are looked up unless more are asked for. -/
def historyLimit (s : Settings) : Except Fault Int := s.number .historyLimit 10

/-- The level of logging, in upper case. -/
def logLevel (s : Settings) : String := Text.upper (s.text .logLevel "INFO")

def apiBaseUrl (s : Settings) : String := s.text .apiBaseUrl "http://localhost:8000"

/-! ## Writing -/

/-- Sets a variable. -/
def put (s : Settings) (name value : String) : Settings := ⟨s.values.insert name value⟩

/-- Does a text hold the character that ends a text outside? -/
def hasNul (s : String) : Bool := s.toList.contains '\x00'

/-- Sets a variable, if name and value can be those of one. -/
def assign (name value : Json) : Act Settings Unit :=
  match name, value with
  | .str name, .str value =>
    if hasNul name || hasNul value then throw .variableWithNul
    else if name.toList.contains '=' then throw .variableNameTaken
    else if name = "" then throw .variableNameEmpty
    else modify fun s => s.put name value
  | .str _, value => throw (.variableNotText value.kindName)
  | name, _ => throw (.variableNotText name.kindName)

/-- Sets the variables of an object, or of a list of pairs, up to the first that cannot be set. -/
def update (values : Json) : Act Settings Unit :=
  match values with
  | .obj members => members.forM fun e => assign (.str e.1) e.2
  | j => do
    (← j.items).zipIdx.forM fun e => do
      let (name, value) ← Json.entryPair e.2 e.1
      assign name value

example : (default.put "HIGH5_PORT" " 80 ").bindPort.toOption = some 80 := by decide +kernel

end Settings

end AssistantUI
