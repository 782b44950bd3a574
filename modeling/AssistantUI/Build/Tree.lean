import AssistantUI.Build.Archetype
import AssistantUI.Build.Field
import AssistantUI.Definition.Coercion
import AssistantUI.Definition.Printer
import AssistantUI.Diagnostic
import AssistantUI.View.Tag

/-!
# Trees for the archetypes

Each archetype turns its parameters into a complete definition. Parameters are any
JSON values; where one is shown it becomes text or nothing, never a node, an event or a
binding. What has to be a list is gone through item by item, and an item of the wrong
kind is a fault.
-/

namespace AssistantUI.Build

/-- A node without events and bindings. -/
def node (tag : Tag) (props : List (String × Json)) (children : List Content) : Node :=
  Node.make tag.name (Dict.ofList props) children ∅ ∅

/-- A node as one of several children. -/
def child (tag : Tag) (props : List (String × Json)) (children : List Content) : Content :=
  .single (node tag props children)

def className (s : String) : List (String × Json) := [("className", .str s)]

/-- The title line of a tree. -/
def titleLine (title : Json) : Content :=
  child .h3 (className "text-lg font-medium mb-4") [Content.ofJson title]

/-- A cell or an option: a text itself, nothing for null, anything else as JSON text. -/
def cellText : Json → String
  | .null => ""
  | .str s => s
  | j => j.write .line

/-! ## Forms -/

def inputClass : String :=
  "w-full px-4 py-2 border border-gray-300 rounded-md focus:outline-none " ++
  "focus:ring-2 focus:ring-blue-500 focus:border-transparent " ++
  "disabled:opacity-50 disabled:bg-gray-100"

def buttonClass : String :=
  "inline-flex items-center justify-center rounded-md font-medium transition-colors " ++
  "focus-visible:outline-none focus-visible:ring-2 focus-visible:ring-offset-2 " ++
  "bg-blue-600 text-white hover:bg-blue-700 h-10 px-4 py-2"

/-- What a change of the field with this name does: its content goes into the state. -/
def changeEvent (name : String) : EventDescriptor :=
  { EventDescriptor.inert with
    action := some updateStateAction
    updates := some (Dict.ofList [(name, .field .value)]) }

/-- What the button of a form does. -/
def submitEvent : EventDescriptor :=
  { EventDescriptor.inert with
    action := some submitAction
    emits := some "submit"
    data := some ∅ }

/-- What the submission of the form itself does: nothing, the button has told the host. -/
def formEvent : EventDescriptor :=
  { EventDescriptor.inert with action := some preventDefaultAction }

/-- An option of a choice. -/
def option (j : Json) : Except Fault Content :=
  match j with
  | .str s => .ok (child .option [("value", .str s)] [.text s])
  | j => do
    let ms ← j.members "get"
    let value := Json.member ms "value"
    return child .option [("value", value)]
      [.text (cellText ((Json.member ms "label").orElse value))]

/-- The control of a field, which shows and writes the state under the field's name. -/
def control (f : FieldSpec) : Except Fault Node := do
  let name := f.name
  let id := ("id", .str ("field-" ++ name))
  let bound (n : Node) : Node :=
    { n with
      events := Dict.ofList [("onChange", changeEvent name)]
      bindings := Dict.ofList [("value", name)] }
  let type := (Json.member f "type").orElse (.str "text")
  if type = .str "textarea" then
    return bound (node .textarea
      [id, ("name", .str name), ("placeholder", f.placeholder), ("required", .bool f.required),
       ("className", .str (inputClass ++ " resize-y")),
       ("rows", (Json.member f "rows").orElse (.int 4))] [])
  else if type = .str "select" then
    let options ← (← f.options.items).mapM option
    return bound (node .select
      [id, ("name", .str name), ("required", .bool f.required), ("className", .str inputClass)]
      [.many options])
  else
    return bound (node .input
      [id, ("type", type), ("name", .str name), ("placeholder", f.placeholder),
       ("required", .bool f.required), ("className", .str inputClass)] [])

/-- The label, the control and the spacer of a field. -/
def field (j : Json) : Except Fault (List Content) := do
  let f ← FieldSpec.ofJson j
  let marker :=
    if f.required then child .span (className "text-red-500 ml-1") [.text "*"] else .empty
  let label := child .label
    [("htmlFor", .str ("field-" ++ f.name)),
     ("className", .str "block text-sm font-medium text-gray-700 mb-1")]
    [Content.ofJson f.label, marker]
  return [label, .single (← control f), child .div (className "mb-4") []]

/-- The button of a form. -/
def submitButton (label : Json) : Node :=
  { node .button [("type", .str "submit"), ("className", .str buttonClass)]
      [Content.ofJson label] with
    events := Dict.ofList [("onClick", submitEvent)] }

def form (ps : Parameters) : Except Fault Node := do
  let fields ← (← (ps.valueOr "fields" Sample.fields).items).mapM field
  let button := submitButton ((ps.value "submitLabel").orElse (.str "Submit"))
  let body : Node :=
    { node .form (className "space-y-4") [.many (fields.flatten ++ [.single button])] with
      events := Dict.ofList [("onSubmit", formEvent)] }
  return node .div (className "dynamic-form bg-white p-6 rounded-lg border border-gray-200")
    [titleLine ((ps.value "title").orElse (.str "Dynamic Form")), .single body]

/-! ## Dashboards and charts -/

/-- What stands for a chart of some kind. -/
def chartLabel (kind : Json) : Content :=
  child .p (className "text-gray-500")
    [.text ((kind.orElse (.str "Bar")).display ++ " Chart Visualization (Placeholder)")]

/-- A card of a dashboard. -/
def card (j : Json) : Except Fault Content := do
  let ms ← j.members "get"
  let heading :=
    child .h4 (className "text-md font-medium mb-2") [Content.ofJson (Json.member ms "title")]
  let body :=
    if Json.member ms "type" = .str "chart" then
      child .div (className "h-40 bg-gray-100 flex items-center justify-center")
        [chartLabel (Json.member ms "chartType")]
    else child .p [] [Content.ofJson (Json.member ms "content")]
  return child .div (className "bg-white rounded-lg border border-gray-200 shadow-sm p-6 h-full")
    [heading, body]

def dashboard (ps : Parameters) : Except Fault Node := do
  let cards ← (← (ps.valueOr "cards" Sample.cards).items).mapM card
  return node .div (className "dynamic-dashboard")
    [titleLine ((ps.value "title").orElse (.str "Dashboard")),
     child .div (className "grid grid-cols-1 md:grid-cols-2 gap-4") [.many cards]]

def chart (ps : Parameters) : Node :=
  node .div (className "dynamic-chart")
    [titleLine ((ps.value "title").orElse (.str "Chart")),
     child .div (className "h-60 bg-gray-100 rounded-lg flex items-center justify-center")
      [chartLabel (ps.value "chartType")],
     child .div (className "mt-4")
      [child .h4 (className "text-sm font-medium mb-2") [.text "Data"],
       child .pre (className "bg-gray-50 p-2 rounded text-xs overflow-auto")
        [.text ((ps.valueOr "data" Sample.chartData).write .block)]]]

/-! ## Tables -/

/-- A header of a table. -/
def headerCell (j : Json) : Content :=
  child .th
    [("scope", .str "col"),
     ("className", .str
      "px-6 py-3 text-left text-xs font-medium text-gray-500 uppercase tracking-wider")]
    [.text (cellText j)]

/-- A cell of a table. -/
def bodyCell (j : Json) : Content :=
  child .td (className "px-6 py-4 whitespace-nowrap text-sm text-gray-500") [.text (cellText j)]

/-- A row of a table: as many cells as it has, whatever the number of headers. -/
def row (j : Json) : Except Fault Content := do
  return child .tr [] [.many ((← j.items).map bodyCell)]

def table (ps : Parameters) : Except Fault Node := do
  let headers ← (ps.valueOr "headers" Sample.headers).items
  let rows ← (← (ps.valueOr "rows" Sample.rows).items).mapM row
  return node .div (className "dynamic-table")
    [titleLine ((ps.value "title").orElse (.str "Data Table")),
     child .div (className "overflow-x-auto")
      [child .table (className "min-w-full divide-y divide-gray-200")
        [child .thead (className "bg-gray-50") [child .tr [] [.many (headers.map headerCell)]],
         child .tbody (className "bg-white divide-y divide-gray-200") [.many rows]]]]

/-! ## All archetypes -/

/-- The paragraph for a name that is no archetype. -/
def unknown (name : Json) : Node :=
  node .p (className "text-gray-500") [.text (Archetype.unknownText name)]

/-- The definition for a name and parameters. -/
def tree (name parameters : Json) : Except Fault Node := do
  let ps ← parameters.toDictOrEmpty
  match Archetype.ofName? name with
  | some .form => form ps
  | some .dashboard => dashboard ps
  | some .chart => return chart ps
  | some .table => table ps
  | none => return unknown name

/-- What is to be noted about a name. -/
def issues (name : Json) : List Issue :=
  if (Archetype.ofName? name).isSome then [] else [.archetypeUnknown name]

/-- The definition for a name and parameters, in its envelope. -/
def envelope (name parameters : Json) : Except Fault Json := do
  return (← tree name parameters).envelope

end AssistantUI.Build
