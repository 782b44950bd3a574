import AssistantUI.Definition.Basic

/-!
# Definitions as JSON

The form in which a definition travels. Parts that are empty are left out, and an empty
child is null.
-/

namespace AssistantUI

/-- An update value: a reference is an object with one member, anything else itself. -/
def UpdateValue.toJson : UpdateValue → Json
  | const j => j
  | field ref => .obj [("$template", .str ref.name)]

/-- A member of an object that is there only if its value is. -/
def optionalMember (k : String) : Option Json → List (String × Json)
  | none => []
  | some j => [(k, j)]

/-- A member of an object that is there only if a dictionary holds something. -/
def nonemptyMember (k : String) (d : Dict String Json) : List (String × Json) :=
  if d.isEmpty then [] else [(k, .ofDict d)]

/-- An event as an object. -/
def EventDescriptor.toJson (d : EventDescriptor) : Json :=
  .obj (optionalMember "action" (d.action.map .str) ++
    optionalMember "stateUpdates" (d.updates.map fun u => .ofDict (u.map UpdateValue.toJson)) ++
    optionalMember "emitEvent" (d.emits.map .str) ++
    optionalMember "data" (d.data.map .ofDict))

mutual

/-- A node as an object. -/
def Node.toJson (n : Node) : Json :=
  match n with
  | ⟨type, props, children, events, bindings⟩ =>
    .obj ([("type", .str type)] ++ nonemptyMember "props" props ++ Content.toMember children ++
      nonemptyMember "events" (events.map EventDescriptor.toJson) ++
      nonemptyMember "stateBindings" (bindings.map .str))

/-- The children of a node as a member of its object, left out if there are none. -/
def Content.toMember (c : Content) : List (String × Json) :=
  match c with
  | .empty => []
  | .text s => [("children", .str s)]
  | .single n => [("children", Node.toJson n)]
  | .many items => [("children", .arr (Content.toJsonList items))]

/-- Content as a value. -/
def Content.toJson (c : Content) : Json :=
  match c with
  | .empty => .null
  | .text s => .str s
  | .single n => Node.toJson n
  | .many items => .arr (Content.toJsonList items)

/-- A list of contents, one by one. -/
def Content.toJsonList (cs : List Content) : List Json :=
  match cs with
  | [] => []
  | c :: rest => Content.toJson c :: Content.toJsonList rest

end

/-- The value of `renderType` that marks a tree of nodes. -/
def treeMarker : String := "server-rendered"

/-- A tree in the envelope in which it is sent. -/
def Node.envelope (n : Node) : Json :=
  .obj [("renderType", .str treeMarker), ("definition", n.toJson)]

end AssistantUI
