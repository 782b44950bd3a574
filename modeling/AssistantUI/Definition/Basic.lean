import AssistantUI.Json.Basic

/-!
# Definitions of user interfaces

A definition says what is on the screen without any code. It is a tree of nodes; each
node has a type, fixed props, props bound to keys of the state, and events. What an event
does is described as data: whether it suppresses the default action, which keys of the
state it sets and what it emits to the host. A value to be set may refer to the field
that triggered the event.

Next to the tree there is an older flat shape, whose layout is fixed by its type; it is
kept as its members and looked into only when it is rendered.
-/

namespace AssistantUI

/-- What an update can take from the field that triggered the event. -/
inductive TemplateRef where
  /-- The content of the field. -/
  | value
  /-- The checked flag of the field. -/
  | checked
  deriving DecidableEq

/-- The name by which definitions refer to it. -/
def TemplateRef.name : TemplateRef → String
  | value => "currentFieldValue"
  | checked => "currentFieldChecked"

/-- The reference with a name. -/
def TemplateRef.ofName? (s : String) : Option TemplateRef :=
  if s = TemplateRef.value.name then some value
  else if s = TemplateRef.checked.name then some checked
  else none

/-- A value that an event writes into the state. -/
inductive UpdateValue where
  /-- The value itself, whatever it looks like. -/
  | const (j : Json)
  /-- What the field holds when the event happens. -/
  | field (ref : TemplateRef)
  deriving DecidableEq

/-- The actions an event can name. Any other name does nothing. -/
def submitAction : String := "submit"

def preventDefaultAction : String := "preventDefault"

def updateStateAction : String := "updateState"

/-- What an event does. -/
structure EventDescriptor where
  action : Option String
  /-- The keys of the state to be set. -/
  updates : Option (Dict String UpdateValue)
  /-- The name under which the host is told. -/
  emits : Option String
  /-- What the host is told beside the state. -/
  data : Option (Dict String Json)
  deriving DecidableEq

namespace EventDescriptor

/-- The event that does nothing. -/
def inert : EventDescriptor := ⟨none, none, none, none⟩

/-- Is the default action of the platform to be left out? -/
def suppresses (d : EventDescriptor) : Bool :=
  d.action == some submitAction || d.action == some preventDefaultAction

end EventDescriptor

mutual

/-- One element of a definition. -/
structure Node where
  /-- The tag, or any other text for an element that is not known. -/
  type : String
  props : Dict String Json
  children : Content
  events : Dict String EventDescriptor
  /-- For each bound prop the key of the state that it shows. -/
  bindings : Dict String String

/-- What stands in one place of a definition. -/
inductive Content where
  | empty
  | text (s : String)
  | single (node : Node)
  | many (items : List Content)

end

instance : Inhabited Content := ⟨.empty⟩
instance : Inhabited Node := ⟨⟨"", ∅, .empty, ∅, ∅⟩⟩

/-- A definition that can be mounted. -/
inductive Definition where
  /-- A tree of nodes. -/
  | tree (root : Node)
  /-- A layout of the given type, with the members it was given. -/
  | flat (type : String) (members : List (String × Json))

/-- The parts of a flat layout that are objects; others are left out. -/
def flatComponents (members : List (String × Json)) : List (List (String × Json)) :=
  match Json.member members "components" with
  | .arr items => items.filterMap fun
    | .obj ms => some ms
    | _ => none
  | _ => []

end AssistantUI
