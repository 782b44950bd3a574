import AssistantUI.Build.Archetype
import AssistantUI.Build.Field

/-!
# Flat definitions for the archetypes

The older shape of what can be asked for. Each archetype has its fixed members, and the
parameters are put in as they are.
-/

namespace AssistantUI.Build.Flat

/-- The component of a field. Only one described by an object says whether it is required. -/
def fieldComponent (j : Json) : Except Fault Json := do
  let f ← FieldSpec.ofJson j
  match j with
  | .str name =>
    return .obj [("type", .str "input"), ("name", .str name),
      ("label", .str (Text.capitalize name)), ("placeholder", .str ("Enter your " ++ name))]
  | _ =>
    return .obj [("type", (Json.member f "type").orElse (.str "input")), ("name", .str f.name),
      ("label", f.label), ("placeholder", f.placeholder), ("required", .bool f.required),
      ("options", .arr (← f.options.items))]

def form (ps : Parameters) : Except Fault Json := do
  let fields ← (← (ps.valueOr "fields" Sample.fields).items).mapM fieldComponent
  let button := .obj [("type", .str "button"),
    ("label", (ps.value "submitLabel").orElse (.str "Submit")), ("action", .str "submit"),
    ("variant", .str "primary")]
  return .obj [("type", .str "form"), ("components", .arr (fields ++ [button]))]

/-- The component of a card. -/
def cardComponent (j : Json) : Except Fault Json := do
  let ms ← j.members "get"
  if Json.member ms "type" = .str "chart" then
    return .obj [("type", .str "chart"),
      ("chartType", (Json.member ms "chartType").orElse (.str "bar")),
      ("title", Json.member ms "title"), ("data", Json.member ms "data")]
  else
    return .obj [("type", .str "card"), ("title", Json.member ms "title"),
      ("content", Json.member ms "content")]

def dashboard (ps : Parameters) : Except Fault Json := do
  let cards ← (← (ps.valueOr "cards" Sample.cards).items).mapM cardComponent
  return .obj [("type", .str "dashboard"), ("components", .arr cards)]

def chart (ps : Parameters) : Json :=
  .obj [("type", .str "chart"), ("chartType", (ps.value "chartType").orElse (.str "bar")),
    ("title", (ps.value "title").orElse (.str "Data Visualization")),
    ("data", ps.valueOr "data" Sample.chartData)]

def table (ps : Parameters) : Json :=
  .obj [("type", .str "table"), ("headers", ps.valueOr "headers" Sample.headers),
    ("rows", ps.valueOr "rows" Sample.rows)]

/-- The message for a name that is no archetype. -/
def unknown (name : Json) : Json :=
  .obj [("type", .str "message"), ("content", .str (Archetype.unknownText name))]

/-- The flat definition for a name and parameters. -/
def definition (name parameters : Json) : Except Fault Json := do
  let ps ← parameters.toDictOrEmpty
  match Archetype.ofName? name with
  | some .form => form ps
  | some .dashboard => dashboard ps
  | some .chart => return chart ps
  | some .table => return table ps
  | none => return unknown name

end AssistantUI.Build.Flat
