import AssistantUI.Diagnostic
import AssistantUI.Render.Callback
import AssistantUI.State.Basic

/-!
# Rendering a tree

Rendering has three results, and each is a function of the definition and the state: what
is shown, which callbacks there are, and what is wrong. What is shown does not depend on
positions at all. The other two are read off one walk through the tree, which visits
each node before and after its children.

Empty items show nothing and nested lists are spliced into the list around them, in
what is shown only: positions count every item of the definition.
-/

namespace AssistantUI

/-! ## Props -/

/-- The props of a node, those that are bound with their value in the state; null if it is unset. -/
def Node.resolvedProps (state : State) (n : Node) : Dict String Json :=
  n.props.insertList (n.bindings.entries.map fun e => (e.1, State.value state e.2))

/-- The props of a node as they are rendered: resolved, and with a placeholder for each event. -/
def Node.renderedProps (state : State) (n : Node) : Dict String Json :=
  (n.resolvedProps state).insertList (n.events.keys.map fun name => (name, callbackPlaceholder))

/-! ## What is shown -/

mutual

/-- The element of a node. -/
def Node.view (state : State) (n : Node) : View :=
  match n with
  | ⟨_, _, children, _, _⟩ =>
    .element (Element.ofNode .text n.type (n.renderedProps state) (Content.views state children)
      n.events.keys)

/-- What a content shows in the list around it. -/
def Content.views (state : State) (c : Content) : List View :=
  match c with
  | .empty => []
  | .text s => [.text s]
  | .single n => [Node.view state n]
  | .many items => Content.viewsOfList state items

/-- What a list of contents shows. -/
def Content.viewsOfList (state : State) (cs : List Content) : List View :=
  match cs with
  | [] => []
  | c :: rest => Content.views state c ++ Content.viewsOfList state rest

end

/-- What a content renders to on its own. -/
def Content.render (state : State) : Content → Rendered View
  | .empty => .nothing
  | .text s => .one (.text s)
  | .single n => .one (n.view state)
  | .many items => .many (viewsOfList state items)

/-! ## The walk through a tree -/

/-- A step of the walk: a node before its children, or after them. -/
inductive Visit where
  | enter (pos : Position) (n : Node)
  | leave (pos : Position) (n : Node)

mutual

/-- The walk through a node at a position. -/
def Node.walk (pos : Position) (n : Node) : List Visit :=
  match n with
  | ⟨_, _, children, _, _⟩ => .enter pos n :: (Content.walkChildren pos children ++ [.leave pos n])

/-- The walk through the children of the node at a position. An only child is its item 0. -/
def Content.walkChildren (pos : Position) (c : Content) : List Visit :=
  match c with
  | .empty => []
  | .text _ => []
  | .single n => Node.walk (pos.item 0) n
  | .many items => Content.walkItems pos 0 items

/-- The walk through a content that stands at a position itself. -/
def Content.walk (pos : Position) (c : Content) : List Visit :=
  match c with
  | .empty => []
  | .text _ => []
  | .single n => Node.walk pos n
  | .many items => Content.walkItems pos 0 items

/-- The walk through the items under a position, numbered from `i`. -/
def Content.walkItems (pos : Position) (i : Nat) (cs : List Content) : List Visit :=
  match cs with
  | [] => []
  | c :: rest => Content.walk (pos.item i) c ++ Content.walkItems pos (i + 1) rest

end

/-! ## Callbacks and issues -/

/-- The callbacks of a node at a position, in the order of its events. -/
def Node.callbacks (state : State) (pos : Position) (n : Node) : List (String × Callback) :=
  n.events.entries.map fun e =>
    (pos.under e.1, ⟨.described e.2, e.1, n.type, n.renderedProps state⟩)

/-- The callbacks that a step of the walk adds. -/
def Visit.callbacks (state : State) : Visit → List (String × Callback)
  | enter pos n => n.callbacks state pos
  | leave .. => []

/-- The issues that a step of the walk finds: unset bindings at first, an unknown type at last. -/
def Visit.issues (state : State) : Visit → List Issue
  | enter pos n => n.bindings.entries.filterMap fun e =>
    if state.contains (.text e.2) then none else some (.bindingMissing pos e.1 e.2)
  | leave pos n => if (Tag.ofName? n.type).isSome then [] else [.tagUnknown pos n.type]

/-- The callbacks of a content, in the order in which they are registered. -/
def Content.registrations (state : State) (pos : Position) (c : Content) :
    List (String × Callback) :=
  (c.walk pos).flatMap (Visit.callbacks state)

/-- The table of callbacks of a content. -/
def Content.callbacks (state : State) (pos : Position) (c : Content) : Callbacks :=
  Dict.ofList (c.registrations state pos)

/-- The issues of rendering a content, in order. -/
def Content.issues (state : State) (pos : Position) (c : Content) : List Issue :=
  (c.walk pos).flatMap (Visit.issues state)

end AssistantUI
