import AssistantUI.Definition.Basic
import AssistantUI.Json.Display
import AssistantUI.Json.Writer
import AssistantUI.Render.Callback
import AssistantUI.State.Basic
import AssistantUI.Text.Blank

/-!
# Rendering a flat definition

The older shape has one fixed layout for each type, one level deep. A form keeps what is
typed in the state, under the name of each field, and tells the host on submission what
the state holds. Components that a layout has no place for show nothing, but they count
in the numbering of the fields.
-/

namespace AssistantUI.Flat

/-- The members of a component. -/
abbrev Component := List (String × Json)

/-- The text of a member, or another text if it does not count as given. -/
def textOr (ms : Component) (k : String) (default : String) : String :=
  ((Json.member ms k).orElse (.str default)).display

/-- A cell or a card's content: a text itself, anything else as JSON text. -/
def cellText : Json → String
  | .str s => s
  | j => j.write .line

def titleClass : List (String × Json) := [("className", .str "text-lg font-medium mb-4")]

/-- A title line of a layout. -/
def title (s : String) : View := .el .h3 titleClass [.text s]

/-! ## Forms -/

/-- The two kinds of components that are fields. -/
inductive FieldKind where
  | input
  | textarea
  deriving DecidableEq

/-- The kind of field that a component is, if it is one. -/
def fieldKind? (c : Component) : Option FieldKind :=
  if Json.member c "type" = .str "input" then some .input
  else if Json.member c "type" = .str "textarea" then some .textarea
  else none

def FieldKind.tag : FieldKind → Tag
  | input => .input
  | textarea => .textarea

/-- The name of a field, under which the state keeps its content. -/
def fieldName (c : Component) : String := textOr c "name" ""

/-- The props of a field's control. -/
def fieldProps (state : State) (kind : FieldKind) (c : Component) : Dict String Json :=
  let content := match State.value state (fieldName c) with
    | .null => .str ""
    | j => j
  Dict.ofList ([("name", .str (fieldName c)), ("placeholder", Json.member c "placeholder"),
    ("value", content), ("required", .bool (Json.member c "required").truthy),
    ("onChange", callbackPlaceholder)] ++
    (if kind = .input then [("type", .str "text")] else []))

/-- A field with its label. -/
def fieldView (state : State) (kind : FieldKind) (c : Component) : View :=
  let marker := if (Json.member c "required").truthy then
      [View.el .span [("className", .str "text-red-500 ml-1")] [.text "*"]]
    else []
  .el .div [("className", .str "mb-4")]
    [.el .label [("className", .str "block text-sm font-medium text-gray-700 mb-1")]
      (.text (textOr c "label" "") :: marker),
     .element ⟨kind.tag, fieldProps state kind c, [], ["onChange"]⟩]

/-- Is the component a button that submits the form? -/
def isSubmitButton (c : Component) : Bool :=
  Json.member c "type" = .str "button" && Json.member c "action" = .str "submit"

/-- The button that submits the form. -/
def buttonView (c : Component) : View :=
  .el .div [("className", .str "mt-6")]
    [.el .button
      [("type", .str "submit"), ("variant", (Json.member c "variant").orElse (.str "primary"))]
      [.text (textOr c "label" "Submit")]]

/-- What a component shows in a form. -/
def formItem (state : State) (c : Component) : Option View :=
  match fieldKind? c with
  | some kind => some (fieldView state kind c)
  | none => if isSubmitButton c then some (buttonView c) else none

/-- The props of the form itself. -/
def formProps : Dict String Json := Dict.ofList [("onSubmit", callbackPlaceholder)]

def formView (state : State) (components : List Component) : View :=
  .el .div [("className", .str "dynamic-form")]
    [title "Dynamic Form",
     .element ⟨.form, formProps, components.filterMap (formItem state), ["onSubmit"]⟩]

/-- The callbacks of the fields among components that are numbered from `i`. -/
def fieldRegistrations (state : State) (i : Nat) : List Component → List (String × Callback)
  | [] => []
  | c :: rest =>
    (match fieldKind? c with
    | some kind =>
      [((Position.item "form" i).under "onChange",
        { handler := .fieldChange (fieldName c), event := "onChange", tag := kind.tag.name,
          props := fieldProps state kind c })]
    | none => []) ++ fieldRegistrations state (i + 1) rest

/-- The callbacks of a form: those of its fields, and its submission. -/
def formRegistrations (state : State) (components : List Component) :
    List (String × Callback) :=
  fieldRegistrations state 0 components ++
    [("form.onSubmit", ⟨.formSubmit, "onSubmit", Tag.form.name, formProps⟩)]

/-! ## Read-only layouts -/

def placeholderClass : List (String × Json) := [("className", .str "text-gray-500")]

/-- A card of a dashboard, if the component is one. -/
def cardView? (c : Component) : Option View :=
  let body? :=
    if Json.member c "type" = .str "card" then
      some (.el .p [] [.text (match Json.member c "content" with
        | .null => ""
        | j => cellText j)])
    else if Json.member c "type" = .str "chart" then
      some (.el .div [("className", .str "h-40 bg-gray-100 flex items-center justify-center")]
        [.el .p placeholderClass [.text "Chart Visualization (Placeholder)"]])
    else none
  body?.map fun body =>
    .el .div [("className", .str "bg-white rounded-lg border border-gray-200 shadow-sm p-6 h-full")]
      [.el .h4 [("className", .str "text-md font-medium mb-2")] [.text (textOr c "title" "")], body]

def dashboardView (components : List Component) : View :=
  .el .div [("className", .str "dynamic-dashboard")]
    [title "Dashboard",
     .el .div [("className", .str "grid grid-cols-1 md:grid-cols-2 gap-4")]
      (components.filterMap cardView?)]

def chartView (ms : Component) : View :=
  .el .div [("className", .str "dynamic-chart")]
    [title (textOr ms "title" "Chart"),
     .el .div [("className", .str "h-60 bg-gray-100 rounded-lg flex items-center justify-center")]
      [.el .p placeholderClass
        [.text (Text.trimStart
          (textOr ms "chartType" "" ++ " Chart Visualization (Placeholder)"))]],
     .el .div [("className", .str "mt-4")]
      [.el .h4 [("className", .str "text-sm font-medium mb-2")] [.text "Data"],
       .el .pre [("className", .str "bg-gray-50 p-2 rounded text-xs overflow-auto")]
        [.text ((Json.member ms "data").write .block)]]]

/-- The items of a list; any other value has none. -/
def listItems : Json → List Json
  | .arr items => items
  | _ => []

def tableView (ms : Component) : View :=
  let headers := listItems (Json.member ms "headers")
  let rows := (listItems (Json.member ms "rows")).map listItems
  .el .div [("className", .str "dynamic-table")]
    [title "Data Table",
     .el .div [("className", .str "overflow-x-auto")]
      [.el .table [("className", .str "min-w-full divide-y divide-gray-200")]
        [.el .thead [("className", .str "bg-gray-50")]
          [.el .tr [] (headers.map fun h => .el .th [("scope", .str "col")] [.text (cellText h)])],
         .el .tbody [("className", .str "bg-white divide-y divide-gray-200")]
          (rows.map fun row =>
            .el .tr [] (row.map fun cell => .el .td [] [.text (cellText cell)]))]]]

def messageView (ms : Component) : View :=
  .el .p [("className", .str "text-gray-700")]
    [.text ((Dict.find "content" ms).getD (.str "")).display]

/-- What is shown for a type that has no layout. -/
def unknownView (type : String) : View :=
  .el .div [("className", .str "p-4 border border-gray-200 rounded-lg")]
    [.el .p placeholderClass [.text ("Unknown component type: " ++ type)]]

/-! ## All layouts -/

/-- What a flat definition shows. -/
def view (state : State) (type : String) (members : Component) : View :=
  match type with
  | "form" => formView state (flatComponents members)
  | "dashboard" => dashboardView (flatComponents members)
  | "chart" => chartView members
  | "table" => tableView members
  | "message" => messageView members
  | other => unknownView other

/-- The callbacks of a flat definition, in the order in which they are registered. -/
def registrations (state : State) (type : String) (members : Component) :
    List (String × Callback) :=
  if type = "form" then formRegistrations state (flatComponents members) else []

end AssistantUI.Flat
