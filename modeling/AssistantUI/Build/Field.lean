import AssistantUI.Json.Access
import AssistantUI.Text.Casing

/-!
# The fields of a requested form

A field is asked for by its name alone or by an object that says more. Whatever is left
open follows from the name: the label is the name with a capital, the placeholder asks to
enter it.
-/

namespace AssistantUI

/-- The members that describe a field; a text is the name of one. -/
abbrev FieldSpec := List (String × Json)

namespace FieldSpec

/-- Reads what is asked for. -/
def ofJson : Json → Except Fault FieldSpec
  | .str s => .ok [("name", .str s)]
  | j => j.members "get"

/-- The name of the field, as text. -/
def name (f : FieldSpec) : String := ((Dict.find "name" f).getD (.str "")).display

/-- Must the field be filled in? -/
def required (f : FieldSpec) : Bool := (Json.member f "required").truthy

/-- The label, the capitalized name by default. -/
def label (f : FieldSpec) : Json := (Json.member f "label").orElse (.str (Text.capitalize f.name))

/-- The placeholder, which by default asks to enter the name. -/
def placeholder (f : FieldSpec) : Json :=
  (Json.member f "placeholder").orElse (.str ("Enter your " ++ f.name))

/-- The options of a choice, none by default. -/
def options (f : FieldSpec) : Json := (Json.member f "options").orElse (.arr [])

end FieldSpec

end AssistantUI
