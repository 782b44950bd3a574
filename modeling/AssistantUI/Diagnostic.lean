import AssistantUI.Json.Access
import AssistantUI.Position
import AssistantUI.Script

/-!
# Diagnostics

A broken definition must not take the rest of the tree with it: what is wrong is noted
and worked around. An `Issue` is the cause of such a note. Its code, wording and details
are functions of the cause. A `Reporter` keeps the notes of one mounted definition; an
issue that would come up again at every rendering carries a key, and a second report
under the same code and key adds nothing. Code of the host may file reports of its own, whose
parts are any values.
-/

namespace AssistantUI

/-- What is wrong with a definition, or with what was asked of it. -/
inductive Issue where
  /-- An event is described by a value of the wrong kind. -/
  | descriptorNotObject (pos : Position) (kind : String)
  | actionNotText (pos : Position) (action : Json)
  | actionUnknown (pos : Position) (action : String)
  | updatesNotObject (pos : Position)
  | eventNameNotText (pos : Position)
  | dataNotObject (pos : Position)
  /-- A node without a type; its type is taken as empty. -/
  | typeNotText (pos : Position) (type : Json)
  /-- A list or object below the greatest depth; it is left out. -/
  | tooDeep (pos : Position) (limit : Nat)
  | definitionNotObject (kind : String)
  | envelopeEmpty
  | shapeUnknown
  /-- A prop is bound to a key of the state that is not set. -/
  | bindingMissing (path : Position) (prop : String) (key : String)
  /-- A node whose type is no tag. -/
  | tagUnknown (path : Position) (tag : String)
  | archetypeUnknown (archetype : Json)
  | callbackUnknown (key : Key)
  | handlerRaised (key : String) (fault : Fault)

namespace Issue

/-- The code under which an issue is filed. -/
def code : Issue → String
  | descriptorNotObject .. | actionNotText .. | actionUnknown .. | updatesNotObject _
  | eventNameNotText _ | dataNotObject _ => "event.descriptor"
  | typeNotText .. | tooDeep .. | definitionNotObject _ | envelopeEmpty | shapeUnknown =>
    "definition.malformed"
  | bindingMissing .. => "binding.missing"
  | tagUnknown .. => "render.unknown_tag"
  | archetypeUnknown _ => "builder.archetype"
  | callbackUnknown _ => "event.unknown_callback"
  | handlerRaised .. => "event.handler"

/-- The wording of an issue. -/
def message : Issue → String
  | descriptorNotObject _ kind => "Event descriptor must be an object, got " ++ kind
  | actionNotText _ action => "Ignoring non-string action " ++ action.literal
  | actionUnknown _ action => "Unrecognized action " ++ Json.quoted action ++ " is a no-op"
  | updatesNotObject _ => "Ignoring non-object stateUpdates"
  | eventNameNotText _ => "Ignoring non-string emitEvent"
  | dataNotObject _ => "Ignoring non-object data"
  | typeNotText .. => "Node without a string type"
  | tooDeep _ limit => "Definition nested deeper than " ++ toString limit ++ " levels; truncated"
  | definitionNotObject kind => "Definition must be an object, got " ++ kind
  | envelopeEmpty => "Server-rendered envelope without a definition"
  | shapeUnknown => "Unrecognized definition shape"
  | bindingMissing _ _ key => "State key " ++ Json.quoted key ++ " is not set"
  | tagUnknown _ tag => "Unknown component type: " ++ tag
  | archetypeUnknown archetype => "No builder for archetype " ++ archetype.literal
  | callbackUnknown key => "No callback registered under " ++ key.literal
  | handlerRaised key fault => "Handler " ++ Json.quoted key ++ " raised " ++ fault.className

/-- Where the issue is, and what it is about. -/
def details : Issue → List (String × Json)
  | descriptorNotObject pos _ | actionNotText pos _ | actionUnknown pos _ | updatesNotObject pos
  | eventNameNotText pos | dataNotObject pos | tooDeep pos _ => [("at", .str pos)]
  | typeNotText pos type => [("at", .str pos), ("type", .str type.literal)]
  | definitionNotObject _ | envelopeEmpty | shapeUnknown => []
  | bindingMissing path prop _ => [("path", .str path), ("prop", .str prop)]
  | tagUnknown path tag => [("path", .str path), ("type", .str tag)]
  | archetypeUnknown archetype => [("archetype", archetype)]
  | callbackUnknown key => [("key", key.toJson)]
  | handlerRaised key _ => [("key", .str key)]

/-- The fault behind an issue. -/
def fault? : Issue → Option Fault
  | handlerRaised _ fault => some fault
  | _ => none

/-- The key under which an issue is reported only once. -/
def onceKey? : Issue → Option String
  | bindingMissing path prop _ => some (path ++ ":" ++ prop)
  | tagUnknown path tag => some (path ++ ":" ++ tag)
  | _ => none

end Issue

/-- A note that was recorded. -/
structure Diagnostic where
  code : Json
  message : Json
  details : Dict String Json
  /-- The text of the fault behind it. -/
  stack : Option String
  deriving DecidableEq, Inhabited

/-- A note to be recorded. -/
structure Report where
  code : Json
  message : Json
  details : Dict String Json := ∅
  fault? : Option Fault := none
  /-- Under the same code and key it is recorded only once. -/
  onceKey? : Option Json := none

/-- The report on an issue. -/
def Issue.report (i : Issue) : Report :=
  ⟨.str i.code, .str i.message, Dict.ofList i.details, i.fault?, i.onceKey?.map .str⟩

/-- The notes of one mounted definition. -/
structure Reporter where
  /-- The name of the mount, which each note carries in its details. -/
  mountId : Option Json := none
  diagnostics : List Diagnostic := []
  /-- The notes that are not to be repeated, under their code and key. -/
  seen : List ((Json × Json) × Diagnostic) := []
  deriving Inhabited

namespace Reporter

/-- The note that a report makes. -/
def note (r : Reporter) (report : Report) : Diagnostic where
  code := report.code
  message := report.message
  details := match r.mountId with
    | none => report.details
    | some id => report.details.insertNew "mount_id" id
  stack := report.fault?.map Fault.describe

/-- The note on record under a code and a key. -/
def seen? (r : Reporter) (code key : Json) : Option Diagnostic :=
  (r.seen.find? fun e => e.1.1.alike code && e.1.2.alike key).map Prod.snd

/-- The reporter with a note on a report that is not on record. -/
def append (r : Reporter) (report : Report) : Reporter where
  mountId := r.mountId
  diagnostics := r.diagnostics ++ [r.note report]
  seen := match report.onceKey? with
    | none => r.seen
    | some key => r.seen ++ [((report.code, key), r.note report)]

/-- Records a report, and gives the note on record for it. -/
def record (r : Reporter) (report : Report) : Diagnostic × Reporter :=
  match report.onceKey?.bind (r.seen? report.code) with
  | some d => (d, r)
  | none => (r.note report, r.append report)

/-- Records an issue. -/
def add (r : Reporter) (i : Issue) : Reporter := (r.record i.report).2

/-- Records issues one after another. -/
def addAll (r : Reporter) (is : List Issue) : Reporter := is.foldl add r

/-- The notes filed under a code. -/
def byCode (r : Reporter) (code : Json) : List Diagnostic :=
  r.diagnostics.filter fun d => d.code.alike code

/-- Forgets all notes. -/
def clear (r : Reporter) : Reporter := { r with diagnostics := [], seen := [] }

/-! ## Reports of the host -/

/-- Details as they are given: nothing for null, the bindings of anything that has them. -/
def detailsOf : Json → Except Fault (Dict String Json)
  | .null => .ok ∅
  | j => do return Dict.ofList ((← j.toDict).entries.map fun e => (e.1.display, e.2))

/--
Files a report of the host; null stands for what is not given. A code and a key that are
looked up have to be such that they can be, and the code is looked up at last in any case.
-/
def file (code message details once : Json) (fault? : Option Fault) : Act Reporter Diagnostic := do
  let key? ← match once with
    | .null => pure none
    | key => do
      let _ ← code.toKey
      let _ ← key.toKey
      pure (some key)
  match key?.bind ((← get).seen? code) with
  | some d => return d
  | none =>
    let report : Report := ⟨code, message, ← detailsOf details, fault?, key?⟩
    let d := (← get).note report
    modify fun r => r.append report
    let _ ← code.toKey
    return d

end Reporter

end AssistantUI
