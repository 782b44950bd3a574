import AssistantUI.Json.Basic
import AssistantUI.View.Tag

/-!
# What is rendered

A rendered tree holds texts and elements only, and nothing that runs: where a prop is a
callback, a placeholder stands, and the element lists the names of such props. The host
finds the callback itself in a table beside the tree.
-/

namespace AssistantUI

/-- An element over children of some kind. -/
structure Element (β : Type) where
  tag : Tag
  props : Dict String Json
  children : List β
  /-- The props that hold a callback, in the order of their characters. -/
  eval : List String

/-- A rendered text or element. -/
inductive View where
  | text (s : String)
  | element (e : Element View)

instance : Inhabited View := ⟨.text ""⟩

/-- What one place of a definition renders to. -/
inductive Rendered (β : Type) where
  | nothing
  | one (b : β)
  | many (bs : List β)

namespace Rendered

variable {β : Type}

/-- What is rendered, as it is spliced into the list around it. -/
def toList : Rendered β → List β
  | nothing => []
  | one b => [b]
  | many bs => bs

end Rendered

/-! ## From nodes to elements -/

/-- What stands in a prop that is a callback. -/
def callbackPlaceholder : Json := .str "$cb"

/-- Names in the order of their characters. -/
def sortNames (names : List String) : List String := names.mergeSort fun a b => decide (a ≤ b)

/-- The box shown for a type that is no tag, with the children that are already rendered. -/
def Element.unknown {β : Type} (text : String → β) (type : String) (children : List β) :
    Element β where
  tag := .div
  props := Dict.ofList
    [("data-unknown-component", .str type), ("style", .obj [("color", .str "red")])]
  children := text ("Unknown component type: " ++ type) :: children
  eval := []

/-- The element of a tag. A void one drops its children. -/
def Element.known {β : Type} (tag : Tag) (props : Dict String Json) (children : List β)
    (callbacks : List String) : Element β where
  tag := tag
  props := props
  children := if tag.isVoid then [] else children
  eval := sortNames callbacks

/-- The element of a node with the given type. -/
def Element.ofNode {β : Type} (text : String → β) (type : String) (props : Dict String Json)
    (children : List β) (callbacks : List String) : Element β :=
  match Tag.ofName? type with
  | some tag => known tag props children callbacks
  | none => unknown text type children

/-- An element without callbacks. -/
def View.el (tag : Tag) (props : List (String × Json)) (children : List View) : View :=
  .element ⟨tag, Dict.ofList props, children, []⟩

/-! ## Views as JSON -/

/-- An element as an object, given its children; parts that are empty are left out. -/
def Element.toJsonWith {β : Type} (e : Element β) (children : List Json) : Json :=
  .obj ([("tag", .str e.tag.name)] ++
    (if e.props.isEmpty then [] else [("props", .ofDict e.props)]) ++
    (if children.isEmpty then [] else [("children", .arr children)]) ++
    (if e.eval.isEmpty then [] else [("eval", .arr (e.eval.map .str))]))

mutual

/-- A view as a value. -/
def View.toJson (v : View) : Json :=
  match v with
  | .text s => .str s
  | .element e => View.elementToJson e

/-- An element as an object. -/
def View.elementToJson (e : Element View) : Json :=
  match e with
  | ⟨tag, props, children, eval⟩ =>
    Element.toJsonWith ⟨tag, props, children, eval⟩ (View.listToJson children)

/-- A list of views, one by one. -/
def View.listToJson (vs : List View) : List Json :=
  match vs with
  | [] => []
  | v :: rest => View.toJson v :: View.listToJson rest

end

/-- What is rendered, as a value: null, a view or a list. -/
def Rendered.toJson : Rendered View → Json
  | .nothing => .null
  | .one v => v.toJson
  | .many vs => .arr (View.listToJson vs)

end AssistantUI
