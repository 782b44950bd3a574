import AssistantUI.Json.Access

/-!
# Archetypes and their parameters

A user interface can be asked for by the name of an archetype and a few parameters.
Parameters that are missing fall back to sample content, so that every request gives
something to show. A parameter that is given but empty is kept: no rows are an empty table.
-/

namespace AssistantUI

/-- What can be asked for by name. -/
inductive Archetype where
  | form
  | dashboard
  | chart
  | table
  deriving DecidableEq

namespace Archetype

/-- The archetype of a name. -/
def ofName? : Json → Option Archetype
  | .str "form" => some form
  | .str "dashboard" => some dashboard
  | .str "chart" => some chart
  | .str "table" => some table
  | _ => none

/-- What is said where a name is no archetype. -/
def unknownText (name : Json) : String :=
  "I don't know how to generate UI components of type \"" ++ name.display ++ "\" yet."

end Archetype

/-- The parameters of a request. -/
abbrev Parameters := Dict Key Json

namespace Parameters

/-- A parameter, null if it is missing. -/
def value (ps : Parameters) (k : String) : Json := (ps.get? (.text k)).getD .null

/-- A parameter, or a default if it is missing or null. -/
def valueOr (ps : Parameters) (k : String) (default : Json) : Json :=
  match ps.value k with
  | .null => default
  | j => j

end Parameters

namespace Sample

/-- The fields of a form of which none are given. -/
def fields : Json := .arr [.str "name", .str "email", .str "message"]

/-- The data of a chart for which none are given. -/
def chartData : Json :=
  .obj [("labels", .arr [.str "Jan", .str "Feb", .str "Mar", .str "Apr", .str "May"]),
    ("datasets", .arr [.obj [("label", .str "Sample Data"),
      ("data", .arr [.int 12, .int 19, .int 3, .int 5, .int 2])]])]

/-- The cards of a dashboard of which none are given. -/
def cards : Json :=
  .arr [
    .obj [("title", .str "Summary"),
      ("content", .str "This is a dynamically generated dashboard card.")],
    .obj [("type", .str "chart"), ("chartType", .str "bar"), ("title", .str "Data Visualization"),
      ("data", chartData)]]

/-- The headers of a table for which none are given. -/
def headers : Json := .arr [.str "Name", .str "Email", .str "Role"]

/-- The rows of a table for which none are given. -/
def rows : Json :=
  .arr [.arr [.str "John Doe", .str "john@example.com", .str "Admin"],
    .arr [.str "Jane Smith", .str "jane@example.com", .str "User"]]

end Sample

end AssistantUI
