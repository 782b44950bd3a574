import AssistantUI.Definition.Coercion
import AssistantUI.Definition.Parser
import AssistantUI.Json.Order
import AssistantUI.State.Basic
import AssistantUI.View.Basic

/-!
# Nodes and elements of plain values

Code of the host may put nodes and elements together by itself, from whatever values it has.
Nothing is checked that is not needed to put a value in its place, and what can be put
there stays as it was given: a binding to a number, the name of a type that is a list.
-/

namespace AssistantUI.Plain

/-- Values under names, as anything that has keys and values gives them. -/
def named (j : Json) : Except Fault (Dict String Json) := do
  return Dict.ofList ((← j.toDictOrEmpty).entries.map fun e => (e.1.display, e.2))

/-! ## Nodes -/

/-- A node of plain values. -/
structure Node where
  type : String
  props : Dict String Json
  children : Content
  /-- The events, those that are described by nothing included. -/
  events : List (String × Option EventDescriptor)
  bindings : State

/-- What a constructor is told beside the children. -/
structure Arguments where
  props : List (String × Json)
  /-- The events that were described, if any were. -/
  events : Option (List (String × Option EventDescriptor))
  bindings : Option Json

/-- Takes a named argument out of the props, where it may be instead of where it belongs. -/
def Arguments.take (a : Arguments) (name : String) (given : Bool) : Except Fault (Option Json) :=
  match Dict.find name a.props with
  | none => .ok none
  | some j => if given then .error (.argumentTwice name) else .ok (some j)

/-- Events that were not read: only those that are nothing can stand. -/
def unreadEvents (j : Json) : Except Fault (List (String × Option EventDescriptor)) := do
  (← j.toDictOrEmpty).entries.mapM fun e => match e.2 with
    | .null => .ok (e.1.display, none)
    | j => .error (.onAttribute j "action")

/-- The node that a constructor for `tag` with default props makes. -/
def Node.make (tag defaults : Json) (children : List Content) (a : Arguments) :
    Except Fault Node := do
  let events ← a.take "events" a.events.isSome
  let bindings ← a.take "bind" a.bindings.isSome
  let props := Json.dict (a.props.filter fun e => e.1 != "events" && e.1 != "bind")
  let defaults ← match defaults with
    | .obj members => pure (Json.dict members)
    | j => if j.truthy then throw (.notAMapping j.kindName) else pure ∅
  let bindings ← ((bindings.orElse fun _ => a.bindings).getD .null).toDictOrEmpty
  let events ← match a.events with
    | some events => pure events
    | none => unreadEvents (events.getD .null)
  return ⟨tag.display, defaults.update props, Content.ofChildren children, events, bindings⟩

/-! ## Elements -/

/-- The tag that a value names. -/
def tag? : Json → Option Tag
  | .str s => Tag.ofName? s
  | _ => none

/-- The box for a type that is no tag. -/
def unknownText (type : Json) : String := "Unknown component type: " ++ type.display

/-- A member of an object, which is left out if there is nothing in it. -/
def part (name : String) (given : Bool) (j : Json) : List (String × Json) :=
  if given then [(name, j)] else []

/-- The element for a type, with props, children and the names of callbacks. -/
def element (type props children callbacks : Json) : Except Fault Json :=
  match tag? type with
  | none => do
    return .obj [("tag", .str Tag.div.name),
      ("props", .obj [("data-unknown-component", type), ("style", .obj [("color", .str "red")])]),
      ("children", .arr (.str (unknownText type) :: (← children.items)))]
  | some tag => do
    let props ← named props
    let children ← if tag.isVoid then pure [] else children.items
    let names ← Json.sort (← callbacks.items)
    return .obj (("tag", .str tag.name) :: part "props" (!props.isEmpty) (.ofDict props) ++
      part "children" (!children.isEmpty) (.arr children) ++
      part "eval" (!names.isEmpty) (.arr names))

/-- Files what is wrong with a type at a place. -/
def fileType (path type : Json) : Act Reporter Unit :=
  if (tag? type).isSome then pure ()
  else discard (Reporter.file (.str "render.unknown_tag") (.str (unknownText type))
    (.obj [("path", path), ("type", type)]) (.str (path.display ++ ":" ++ type.display)) none)

end AssistantUI.Plain
