import AssistantUI.Definition.Basic

/-!
# Triggers

A trigger is what the platform tells about one interaction: the content and the checked
flag of the field concerned. It also takes back whether the default action is to be left
out, which a handler may have decided.
-/

namespace AssistantUI

/-- One interaction of the user. -/
structure Trigger where
  value : Json := .null
  checked : Option Bool := none
  /-- Has a handler suppressed the default action? -/
  prevented : Bool := false
  deriving DecidableEq, Inhabited

namespace Trigger

/-- The trigger that an object describes by its members. -/
def ofMembers (members : List (String × Json)) : Trigger where
  value := Json.member members "value"
  checked := match Json.member members "checked" with
    | .null => none
    | j => some j.truthy

/--
Reads what a platform sends: an object with a value and a checked flag, one that has them in
its `target`, nothing, or the bare value.
-/
def ofJson : Json → Trigger
  | .obj members =>
    match Json.member members "target" with
    | .obj target => ofMembers target
    | _ => ofMembers members
  | j => { value := j }

end Trigger

/-- What an update writes when it is triggered. -/
def UpdateValue.resolve (t : Trigger) : UpdateValue → Json
  | const j => j
  | field .value => t.value
  | field .checked => match t.checked with
    | none => .null
    | some b => .bool b

end AssistantUI
