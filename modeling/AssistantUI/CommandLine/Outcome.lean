import AssistantUI.Build.Tree
import AssistantUI.CommandLine.Command
import AssistantUI.Json.Reader
import AssistantUI.Session.Mount
import AssistantUI.Settings

/-!
# What commands lead to

A command prints a result, or gives notices of what is wrong and of what it is about to do,
and ends with an exit code. Serving is not done here: a command to serve ends in the address
to be served at.
-/

namespace AssistantUI.CommandLine

/-- Where and how to serve. -/
structure Serving where
  host : String
  bindPort : Int
  reload : Bool
  /-- In lower case. -/
  logLevel : String
  deriving DecidableEq

/-- What a command leads to. -/
structure Outcome where
  exitCode : Nat := 0
  /-- What is printed. -/
  output : String := ""
  notices : List String := []
  serving : Option Serving := none
  /-- Why it failed, if that was not to be expected. -/
  fault : Option Fault := none
  deriving DecidableEq

namespace Outcome

/-- The arguments make no command. -/
def misused : Outcome := { exitCode := 2 }

/-- A failure that a notice tells of. -/
def refused (notice : String) : Outcome := { exitCode := 1, notices := [notice] }

/-- A failure that was not to be expected. -/
def failed (f : Fault) : Outcome := { exitCode := 1, fault := some f }

/-- The notice of a text that is no JSON. -/
def notJson (place : String) : String := "❌ Invalid JSON in " ++ place

/-- The outcome where a text cannot be read. That it is no JSON was to be expected. -/
def unreadable (place : String) (f : Fault) : Outcome :=
  if f = .invalidJson then refused (notJson place) else failed f

/-- What is printed for a value. -/
def printed (j : Json) : String := j.write .unicodeBlock ++ "\n"

/-- The outcome of something that may fail. -/
def ofExcept : Except Fault Outcome → Outcome
  | .ok o => o
  | .error f => failed f

/-! ## Logging -/

/-- The names of the levels of logging. -/
def levels : List String :=
  ["CRITICAL", "FATAL", "ERROR", "WARN", "WARNING", "INFO", "DEBUG", "NOTSET"]

/-- Fails unless the level of the settings is one. -/
def checkLevel (settings : Settings) : Except Fault Unit :=
  let level := Text.upper settings.logLevel
  if levels.contains level then .ok () else .error (.levelUnknown level)

/-! ## The commands -/

/-- Builds the definition for an archetype. -/
def build (archetype parameters : String) : Outcome :=
  match Json.read parameters with
  | .error f => unreadable "--params" f
  | .ok (.obj members) => ofExcept do
    return { output := printed (← Build.envelope (.str archetype) (.obj members)) }
  | .ok _ => refused "❌ --params must be a JSON object"

/-- What a mount shows, with a notice of each issue and one of its callbacks. -/
def ofMount (m : Mount) : Outcome where
  output := printed m.view.toJson
  notices :=
    (m.reporter.diagnostics.map fun d =>
        "⚠️  [yellow]" ++ d.code.display ++ "[/yellow] " ++ d.message.display) ++
      (if m.callbacks.isEmpty then [] else ["Callbacks: " ++ ", ".intercalate m.callbacks.keys])

/-- Renders the definition in a file with the given content. -/
def render (settings : Settings) (file content : String) : Outcome := ofExcept do
  checkLevel settings
  match Json.read content with
  | .error f => return unreadable file f
  | .ok .null => return { notices := ["Nothing to render"] }
  | .ok j =>
    let (definition, issues) ← Definition.parse j
    return ofMount (Mount.start "" definition issues)

/-- The address to serve at. -/
def serve (settings : Settings) (address : Option String) (bindPort : Option Int)
    (dev prod reload : Bool) : Outcome :=
  if dev && prod then
    { exitCode := 1, output := "❌ Please specify only one of --dev or --prod.\n" }
  else ofExcept do
    checkLevel settings
    let host := match address with
      | none | some "" => settings.host
      | some address => address
    let bindPort ← match bindPort with
      | none | some 0 => settings.bindPort
      | some bindPort => pure bindPort
    return {
      notices := ["🚀 Serving High5 API on [cyan]http://" ++ host ++ ":" ++ toString bindPort ++
        "[/cyan]"]
      serving := some ⟨host, bindPort, reload, Text.lower settings.logLevel⟩ }

/-- Runs the command that arguments make, with the contents of the files that there are. -/
def ofArguments (settings : Settings) (contents : String → Option String) (args : List String) :
    Outcome :=
  match Command.ofArguments? args with
  | none => misused
  | some (.serve address bindPort dev prod reload) =>
    serve settings address bindPort dev prod reload
  | some (.build archetype parameters) => build archetype parameters
  | some (.render file) =>
    match contents file with
    | none => misused
    | some content => render settings file content

end Outcome

end AssistantUI.CommandLine
