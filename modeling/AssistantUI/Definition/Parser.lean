import AssistantUI.Definition.Printer
import AssistantUI.Diagnostic

/-!
# Reading definitions

Reading is tolerant: a piece of the wrong kind is noted as an issue and left out, and
everything around it is kept. Only two things are faults: a node that is no object, and
an update that refers to the triggering field by a list or an object instead of a name.

Trees can be deep without end, so nodes and lists below a greatest depth are left out.
-/

namespace AssistantUI

/-! ## Results with issues -/

/-- What reading gives: a fault, or a value with the issues that were met, in order. -/
def Parse (α : Type) : Type := Except Fault (α × List Issue)

namespace Parse

variable {α β : Type}

/-- A value that was read without an issue. -/
protected def pure (a : α) : Parse α := .ok (a, [])

/-- Reads on, with the issues of both steps in order. -/
protected def bind (p : Parse α) (f : α → Parse β) : Parse β :=
  match p with
  | .error e => .error e
  | .ok (a, is) =>
    match f a with
    | .error e => .error e
    | .ok (b, js) => .ok (b, is ++ js)

instance : Monad Parse where
  pure := Parse.pure
  bind := Parse.bind

/-- Notes an issue. -/
def report (i : Issue) : Parse Unit := .ok ((), [i])

/-- Gives up. -/
def fail (f : Fault) : Parse α := .error f

/-- The value alone. -/
def value? (p : Parse α) : Except Fault α := p.map Prod.fst

end Parse

/-! ## Events -/

/-- The texts by which older definitions refer to the triggering field. -/
def TemplateRef.ofMarker? (s : String) : Option TemplateRef :=
  if s = "\x7b\x7bevent.target.value\x7d\x7d" then some value
  else if s = "\x7b\x7bevent.target.checked\x7d\x7d" then some checked
  else none

/-- Reads the value of an update. Only a name can be looked up, and a container is no name. -/
def UpdateValue.ofJson : Json → Except Fault UpdateValue
  | .str s => .ok (match TemplateRef.ofMarker? s with
    | some ref => .field ref
    | none => .const (.str s))
  | .obj [("$template", .str s)] => .ok (match TemplateRef.ofName? s with
    | some ref => .field ref
    | none => .const (.obj [("$template", .str s)]))
  | .obj [("$template", .arr _)] => .error (.unhashable "list")
  | .obj [("$template", .obj _)] => .error (.unhashable "dict")
  | j => .ok (.const j)

namespace EventDescriptor

/-- Is this an action that does something? -/
def knownAction (s : String) : Bool :=
  s == submitAction || s == preventDefaultAction || s == updateStateAction

/-- The action: a text, which is kept also if it means nothing. -/
def parseAction (pos : Position) : Json → Parse (Option String)
  | .null => pure none
  | .str s => do
    unless knownAction s do Parse.report (.actionUnknown pos s)
    return some s
  | j => do
    Parse.report (.actionNotText pos j)
    return none

/-- Reads the values of updates, in order. -/
def parseUpdateEntries : List (String × Json) → Except Fault (List (String × UpdateValue))
  | [] => .ok []
  | (k, j) :: rest => do
    let v ← UpdateValue.ofJson j
    return (k, v) :: (← parseUpdateEntries rest)

/-- The updates of the state. -/
def parseUpdates (pos : Position) : Json → Parse (Option (Dict String UpdateValue))
  | .null => pure none
  | .obj members =>
    match parseUpdateEntries members with
    | .ok entries => pure (some (Dict.ofList entries))
    | .error f => Parse.fail f
  | _ => do
    Parse.report (.updatesNotObject pos)
    return none

/-- The name under which the host is told. -/
def parseEmits (pos : Position) : Json → Parse (Option String)
  | .null => pure none
  | .str s => pure (some s)
  | _ => do
    Parse.report (.eventNameNotText pos)
    return none

/-- What the host is told beside the state. -/
def parseData (pos : Position) : Json → Parse (Option (Dict String Json))
  | .null => pure none
  | .obj members => pure (some (Json.dict members))
  | _ => do
    Parse.report (.dataNotObject pos)
    return none

/-- Reads what an event does; one that is no object is left out. -/
def parse (pos : Position) : Json → Parse (Option EventDescriptor)
  | .obj members => do
    let action ← parseAction pos (Json.member members "action")
    let updates ← parseUpdates pos (Json.member members "stateUpdates")
    let emits ← parseEmits pos (Json.member members "emitEvent")
    let data ← parseData pos (Json.member members "data")
    return some ⟨action, updates, emits, data⟩
  | j => do
    Parse.report (.descriptorNotObject pos j.kindName)
    return none

/-- Reads the events of the node at `base`. -/
def parseEvents (base : Position) : List (String × Json) → Parse (List (String × EventDescriptor))
  | [] => pure []
  | (name, j) :: rest => do
    let d ← parse (base.under name) j
    let ds ← parseEvents base rest
    return match d with
      | some d => (name, d) :: ds
      | none => ds

end EventDescriptor

/-! ## Nodes and contents -/

/-- Nodes and lists below this depth are left out. -/
def maxDepth : Int := 256

/-- The type of a node. -/
def Node.parseType (pos : Position) : Json → Parse String
  | .str s => pure s
  | j => do
    Parse.report (.typeNotText pos j)
    return ""

/-- The props of a node; they are taken as they are. -/
def Node.parseProps : Json → Dict String Json
  | .obj members => Json.dict members
  | _ => ∅

/-- The members of an object, none if it is no object. -/
def Json.membersOrNone : Json → List (String × Json)
  | .obj members => members
  | _ => []

/-- The bindings of a node; those to a key that is no text are left out. -/
def Node.parseBindings (members : List (String × Json)) : Dict String String :=
  Dict.ofList (members.filterMap fun
    | (prop, .str key) => some (prop, key)
    | _ => none)

/-- Reads the node with the given members, whose children are read by `children`. -/
def Node.parseWith (pos : Position) (members : List (String × Json)) (children : Parse Content) :
    Parse Node := do
  let type ← Node.parseType pos (Json.member members "type")
  let events ← EventDescriptor.parseEvents pos (Json.member members "events").membersOrNone
  let content ← children
  return {
    type := type
    props := Node.parseProps (Json.member members "props")
    children := content
    events := Dict.ofList events
    bindings := Node.parseBindings (Json.member members "stateBindings").membersOrNone }

mutual

/-- Reads content at a depth and a position. -/
def Content.parse (depth : Int) (pos : Position) (raw : Json) : Parse Content :=
  match raw with
  | .null => pure .empty
  | .bool _ => pure .empty
  | .str s => pure (.text s)
  | .int n => pure (.text (Json.display (.int n)))
  | .float x => pure (.text (Json.display (.float x)))
  | .obj members =>
    if depth > maxDepth then do
      Parse.report (.tooDeep pos maxDepth.toNat)
      return .empty
    else do
      return .single (← Node.parseWith pos members (Content.parseChildren (depth + 1) pos members))
  | .arr items =>
    if depth > maxDepth then do
      Parse.report (.tooDeep pos maxDepth.toNat)
      return .empty
    else do
      return .many (← Content.parseItems (depth + 1) pos 0 items)

/-- Reads the children among the members of a node, which are nothing if there are none. -/
def Content.parseChildren (depth : Int) (pos : Position) (members : List (String × Json)) :
    Parse Content :=
  match members with
  | [] => pure .empty
  | (k, j) :: rest =>
    if k = "children" then Content.parse depth pos j else Content.parseChildren depth pos rest

/-- Reads the items of a list, which are numbered from `i`. -/
def Content.parseItems (depth : Int) (pos : Position) (i : Nat) (items : List Json) :
    Parse (List Content) :=
  match items with
  | [] => pure []
  | j :: rest => do
    let c ← Content.parse depth (pos.item i) j
    return c :: (← Content.parseItems depth pos (i + 1) rest)

end

/--
Reads a node. Its members are read as those of a child are, and its children lie at the depth
of the node itself.
-/
def Node.parse (depth : Int) (pos : Position) (raw : Json) : Parse Node :=
  match raw with
  | .obj members => Node.parseWith pos members (Content.parseChildren depth pos members)
  | j => Parse.fail (.onAttribute j "get")

/-! ## Definitions -/

/-- Reads a definition of either shape; null is none, and so is what has neither shape. -/
def Definition.parse (raw : Json) : Parse (Option Definition) :=
  match raw with
  | .null => pure none
  | .obj members =>
    if Json.member members "renderType" = .str treeMarker then
      match Json.member members "definition" with
      | .obj node => do return some (.tree (← Node.parse 0 "" (.obj node)))
      | _ => do
        Parse.report .envelopeEmpty
        return none
    else
      match Json.member members "type" with
      | .str type => pure (some (.flat type members))
      | _ => do
        Parse.report .shapeUnknown
        return none
  | j => do
    Parse.report (.definitionNotObject j.kindName)
    return none

end AssistantUI
