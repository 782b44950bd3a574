import AssistantUI.Build.Flat
import AssistantUI.Proofs.Build.Envelope
import AssistantUI.Proofs.Render.Splicing
import AssistantUI.Proofs.Render.Tables

/-!
# Tables that are built

A table is asked for by a list of headers and a list of rows, each a list of cells. Rows need not be
as long as the headers or as each other, and a cell may be any value, a list or an object among
them. In a tree a row is a list of contents that is an only child: it is written, read back and
spliced into the element around it, and a cell that is a list must not be spliced with it. A flat
definition keeps the lists as they are, and goes through them by hand.

Both come out in the layout of a table, so that what is read off them are the texts of their cells.
Of a tree these are the cells that were asked for (`table_mounted`). The flat definition has a text
of its own for null, which is nothing in the tree and JSON text in it, and for no other value, so
this is the only way in which the two can differ (`tables_agree_iff`).
-/

namespace AssistantUI

/-! ## What can be read back at a depth -/

/-- The content can be read back wherever this many levels are left for it. -/
def Content.Within (levels : Nat) (c : Content) : Prop :=
  ∀ depth : Int, depth + levels ≤ maxDepth + 1 → c.Readable depth

namespace Content

variable {levels levels' : Nat} {c : Content} {cs : List Content}

theorem allReadable_iff {depth : Int} : AllReadable depth cs ↔ ∀ c ∈ cs, c.Readable depth := by
  induction cs with
  | nil => simp [AllReadable]
  | cons c cs ih => rw [AllReadable, ih, List.forall_mem_cons]

theorem within_text (s : String) : (text s).Within levels := fun _ _ => trivial

theorem Within.mono (h : c.Within levels) (hle : levels ≤ levels') : c.Within levels' :=
  fun depth hdepth => h depth (by omega)

theorem within_many (h : ∀ c ∈ cs, c.Within levels) : (many cs).Within (levels + 1) := by
  intro depth hdepth
  refine ⟨by omega, allReadable_iff.mpr fun c hc => ?_⟩
  exact h c hc (depth + 1) (by omega)

theorem within_items {α : Type} {f : α → Content} (h : ∀ a, (f a).Within levels) (as : List α) :
    (many (as.map f)).Within (levels + 1) :=
  within_many (List.forall_mem_map.mpr fun a _ => h a)

theorem within_ofChildren (h : ∀ c ∈ cs, c.Within levels) :
    (ofChildren cs).Within (levels + 1) := by
  match cs with
  | [] => exact fun _ _ => trivial
  | [c] => exact (h c (List.mem_singleton_self c)).mono (by omega)
  | c :: d :: rest => exact within_many h

/-- Where nothing does anything, there is nothing to call back. -/
theorem callbacks_eq_empty (h : c.AllEvents fun _ => False) (state : State) :
    c.callbacks state "" = ∅ := by
  have hnone : c.registrations state "" = [] := by
    rw [registrations_root]
    refine List.flatMap_eq_nil_iff.mpr fun e he => List.map_eq_nil_iff.mpr ?_
    exact List.eq_nil_iff_forall_not_mem.mpr fun event hevent =>
      event_of_mem_nodes c h [] e he event hevent
  rw [callbacks, hnone]
  rfl

end Content

namespace Build

open Content (Within)

variable {tag : Tag} {props : List (String × Json)} {cs : List Content} {levels : Nat}

theorem readable_node (levels : Nat) (h : ∀ c ∈ cs, c.Within levels) {depth : Int}
    (hdepth : depth + levels ≤ maxDepth) : (node tag props cs).Readable depth := by
  refine ⟨fun e he => absurd he List.not_mem_nil, ?_⟩
  exact Content.within_ofChildren h depth (by omega)

theorem within_child (h : ∀ c ∈ cs, c.Within levels) :
    (child tag props cs).Within (levels + 2) := by
  intro depth hdepth
  exact ⟨by omega, readable_node levels h (by omega)⟩

theorem within_wrapper {c : Content} (h : c.Within levels) :
    (child tag props [c]).Within (levels + 2) := within_child (List.forall_mem_singleton.mpr h)

/-! ## The tree of a table -/

/-- The parameters of a table, as they are sent. -/
def tableParameters (headers : List Json) (rows : List (List Json)) : Json :=
  .obj [("headers", .arr headers), ("rows", .arr (rows.map Json.arr))]

/-- The row of some cells. -/
def rowOf (cells : List Json) : Content := child .tr [] [.many (cells.map bodyCell)]

/-- The head of a table, with its headers in one row. -/
def tableHead (headers : List Json) : Content :=
  child .thead (className "bg-gray-50") [child .tr [] [.many (headers.map headerCell)]]

/-- The body of a table. -/
def tableBody (rows : List (List Json)) : Content :=
  child .tbody (className "bg-white divide-y divide-gray-200") [.many (rows.map rowOf)]

/-- The tree of a table. -/
def tableRoot (headers : List Json) (rows : List (List Json)) : Node :=
  node .div (className "dynamic-table")
    [titleLine (.str "Data Table"),
     child .div (className "overflow-x-auto")
      [child .table (className "min-w-full divide-y divide-gray-200")
        [tableHead headers, tableBody rows]]]

theorem mapM_row (rows : List (List Json)) :
    (rows.map Json.arr).mapM row = .ok (rows.map rowOf) := by
  induction rows with
  | nil => rfl
  | cons cells rows ih =>
    have hrow : row (.arr cells) = .ok (rowOf cells) := rfl
    rw [List.map_cons, List.mapM_cons, hrow, ih]
    rfl

variable (headers : List Json) (rows : List (List Json))

theorem tree_table : tree (.str "table") (tableParameters headers rows) =
    .ok (tableRoot headers rows) := by
  let ps : Parameters := Dict.ofList
    [(.text "headers", .arr headers), (.text "rows", .arr (rows.map Json.arr))]
  have hheaders : (ps.valueOr "headers" Sample.headers).items = .ok headers := rfl
  have hrows : (ps.valueOr "rows" Sample.rows).items = .ok (rows.map Json.arr) := rfl
  show table ps = _
  rw [table, hheaders, hrows]
  show ((rows.map Json.arr).mapM row >>= _) = _
  rw [mapM_row]
  rfl

/-! ### What it shows -/

theorem view_node (h : tag.isVoid = false) (state : State) :
    (node tag props cs).view state = .el tag props (cs.flatMap (Content.views state)) := by
  have hprops : (node tag props cs).renderedProps state = Dict.ofList props := rfl
  have hchildren : (node tag props cs).children.views state = cs.flatMap (Content.views state) := by
    match cs with
    | [] => rfl
    | [c] => exact (List.flatMap_singleton _ _).symm
    | c :: d :: rest => exact Content.viewsOfList_eq state _
  have hknown : Tag.ofName? (node tag props cs).type = some tag := Tag.ofName?_name tag
  have hnames : sortNames (node tag props cs).events.keys = [] := List.mergeSort_nil
  rw [Node.view_eq, Element.ofNode_known hknown, hprops, hchildren, Element.known, h, hnames]
  rfl

theorem views_child (h : tag.isVoid = false) (state : State) :
    (child tag props cs).views state = [.el tag props (cs.flatMap (Content.views state))] :=
  congrArg (fun v => [v]) (view_node h state)

theorem flatMap_views_many (state : State) (items : List Content) :
    [Content.many items].flatMap (Content.views state) = items.flatMap (Content.views state) := by
  rw [List.flatMap_singleton, Content.views, Content.viewsOfList_eq]

/-- The props of a header cell of a tree. -/
def headerProps : List (String × Json) :=
  [("scope", .str "col"),
   ("className", .str
    "px-6 py-3 text-left text-xs font-medium text-gray-500 uppercase tracking-wider")]

/-- The props of a cell of a tree. -/
def cellProps : List (String × Json) :=
  className "px-6 py-4 whitespace-nowrap text-sm text-gray-500"

/-- Where each item is shown as one view, the items are shown as these. -/
theorem flatMap_views_map {α : Type} {f : α → Content} {g : α → View} {state : State}
    (h : ∀ a, (f a).views state = [g a]) (as : List α) :
    (as.map f).flatMap (Content.views state) = as.map g := by
  rw [List.flatMap_map, List.map_eq_flatMap]
  exact List.flatMap_congr fun a _ => h a

/-- A cell is shown as its text alone, whatever kind of value it is. -/
theorem flatMap_views_cells {cell : Json → Content} {state : State}
    (hcell : ∀ j, (cell j).views state = [.el tag props [.text (cellText j)]]) (cells : List Json) :
    (cells.map cell).flatMap (Content.views state) =
      View.captions tag props (cells.map cellText) := by
  rw [flatMap_views_map hcell, View.captions, List.map_map]
  rfl

theorem views_rowOf (state : State) (cells : List Json) : (rowOf cells).views state =
    [.el .tr [] (View.captions .td cellProps (cells.map cellText))] := by
  have hcells : (cells.map bodyCell).flatMap (Content.views state) =
      View.captions .td cellProps (cells.map cellText) :=
    flatMap_views_cells (fun j => views_child rfl state) cells
  rw [rowOf, views_child rfl, flatMap_views_many, hcells]

theorem views_tableHead (state : State) (headers : List Json) : (tableHead headers).views state =
    [.el .thead (className "bg-gray-50")
      [.el .tr [] (View.captions .th headerProps (headers.map cellText))]] := by
  have hcells : (headers.map headerCell).flatMap (Content.views state) =
      View.captions .th headerProps (headers.map cellText) :=
    flatMap_views_cells (fun j => views_child rfl state) headers
  rw [tableHead, views_child rfl, List.flatMap_singleton, views_child rfl, flatMap_views_many,
    hcells]

theorem views_tableBody (state : State) (rows : List (List Json)) : (tableBody rows).views state =
    [.el .tbody (className "bg-white divide-y divide-gray-200")
      (View.tableRows cellProps (rows.map fun row => row.map cellText))] := by
  have hrows : (rows.map rowOf).flatMap (Content.views state) =
      View.tableRows cellProps (rows.map fun row => row.map cellText) := by
    rw [flatMap_views_map (views_rowOf state), View.tableRows, List.map_map]
    rfl
  rw [tableBody, views_child rfl, flatMap_views_many, hrows]

/-- The tree of a table is shown in the layout of a table, with the text of each cell. -/
theorem view_tableRoot (state : State) : (tableRoot headers rows).view state =
    View.tableView headerProps cellProps (headers.map cellText)
      (rows.map fun row => row.map cellText) := by
  have htitle : (titleLine (.str "Data Table")).views state = [Flat.title "Data Table"] :=
    views_child rfl state
  rw [tableRoot, view_node rfl, List.flatMap_cons, htitle, List.flatMap_singleton,
    views_child rfl, List.flatMap_singleton, views_child rfl, List.flatMap_cons, views_tableHead,
    List.flatMap_singleton, views_tableBody]
  rfl

theorem tabulates_tableRoot (state : State) : ((tableRoot headers rows).view state).Tabulates
    (headers.map cellText) (rows.map fun row => row.map cellText) := by
  rw [view_tableRoot]
  exact View.tabulates_tableView ..

/-! ### What is read back of it -/

theorem within_caption (s : String) : (child tag props [.text s]).Within 2 :=
  within_wrapper (Content.within_text s)

theorem within_rowOf (cells : List Json) : (rowOf cells).Within 5 :=
  within_wrapper (Content.within_items (fun j => within_caption (cellText j)) cells)

theorem within_tableHead (headers : List Json) : (tableHead headers).Within 7 :=
  within_wrapper (within_wrapper
    (Content.within_items (fun j => within_caption (cellText j)) headers))

theorem within_tableBody (rows : List (List Json)) : (tableBody rows).Within 8 :=
  within_wrapper (Content.within_items within_rowOf rows)

/-- However long a table is, it is twelve levels deep. -/
theorem readable_tableRoot : (tableRoot headers rows).Readable 0 := by
  have hparts : ∀ c ∈ [tableHead headers, tableBody rows], c.Within 8 :=
    List.forall_mem_cons.mpr ⟨(within_tableHead headers).mono (by omega),
      List.forall_mem_singleton.mpr (within_tableBody rows)⟩
  have htitle : (titleLine (.str "Data Table")).Within 12 :=
    (within_caption "Data Table").mono (by omega)
  refine readable_node 12 (List.forall_mem_cons.mpr ⟨htitle, ?_⟩) (by decide)
  exact List.forall_mem_singleton.mpr (within_wrapper (within_child hparts))

/-- Nothing in a table does anything. -/
theorem allEvents_tableRoot (P : String × EventDescriptor → Prop) :
    (tableRoot headers rows).AllEvents P := by
  obtain ⟨ps, -, o, hfits, hshows⟩ := hasOutline_tree (tree_table headers rows)
  rw [Node.allEvents_iff_kinds, show (tableRoot headers rows).kinds = o.kinds from hshows.kinds]
  intro k hk e he
  rw [((Outline.inert hfits).idle (by decide) k hk).1] at he
  exact absurd he List.not_mem_nil

theorem parse_tableRoot : Definition.parse (tableRoot headers rows).envelope =
    .ok (some (.tree (tableRoot headers rows)), []) := by
  have hback := Node.parse_toJson (readable_tableRoot headers rows) ""
  rw [Node.unknownActions_eq_nil _ (allEvents_tableRoot headers rows _)] at hback
  exact Definition.parse_envelope hback

/--
**What was asked for is what is shown**, in every session and whatever was mounted before: one
header cell for each header, one row for each row, one cell for each of its cells, however many
these are. Every cell shows its value: a text itself, null as nothing, and anything else as JSON
text. No cell does anything.
-/
theorem table_mounted (headers : List Json) (rows : List (List Json)) :
    let text : Json → String
      | .null => ""
      | .str s => s
      | j => j.write .line
    ∃ j, envelope (.str "table") (tableParameters headers rows) = .ok j ∧
      ∀ (σ : Type) (host : Session.Host σ) (s : Session σ), ∃ m view,
        Session.Mounts host s (.json j) m ∧ m.view = .one view ∧
        view.Tabulates (headers.map text) (rows.map fun row => row.map text) ∧
        m.callbacks = ∅ := by
  intro text
  have htext : text = cellText := rfl
  rw [htext]
  have henvelope : envelope (.str "table") (tableParameters headers rows) =
      .ok (tableRoot headers rows).envelope := by
    rw [envelope, tree_table]
    rfl
  refine ⟨_, henvelope, fun σ host s => ?_⟩
  refine ⟨Mount.start (host.mountId s.mounts.length) (some (.tree (tableRoot headers rows))) [],
    (tableRoot headers rows).view ∅, ?_, rfl, tabulates_tableRoot headers rows ∅, ?_⟩
  · exact Session.mount_of_ok host s rfl (parse_tableRoot headers rows)
  · exact Content.callbacks_eq_empty (c := .single (tableRoot headers rows))
      (allEvents_tableRoot headers rows _) ∅

/-! ## The flat definition -/

theorem flat_cellText (j : Json) : Flat.cellText j = if j = .null then "null" else cellText j := by
  cases j with
  | null => decide
  | _ => rfl

/-- Both shapes have the same text for a value, unless it is null. -/
theorem flat_cellText_eq_iff (j : Json) : Flat.cellText j = cellText j ↔ j ≠ .null := by
  rw [flat_cellText]
  by_cases hj : j = .null
  · subst hj
    decide
  · simp [hj]

theorem map_flat_cellText_eq_iff (cells : List Json) :
    cells.map Flat.cellText = cells.map cellText ↔ .null ∉ cells := by
  rw [List.map_inj_left]
  constructor
  · intro h hnull
    exact (flat_cellText_eq_iff .null).mp (h .null hnull) rfl
  · intro h j hj
    exact (flat_cellText_eq_iff j).mpr (ne_of_mem_of_not_mem hj h)

/-- The members of the flat definition of a table. -/
def tableMembers (headers : List Json) (rows : List (List Json)) : List (String × Json) :=
  [("type", .str "table"), ("headers", .arr headers), ("rows", .arr (rows.map Json.arr))]

section

variable (headers : List Json) (rows : List (List Json))

theorem definition_table : Flat.definition (.str "table") (tableParameters headers rows) =
    .ok (.obj (tableMembers headers rows)) := rfl

theorem parse_tableMembers : Definition.parse (.obj (tableMembers headers rows)) =
    .ok (some (.flat "table" (tableMembers headers rows)), []) := rfl

/-- The flat definition is shown in the same layout, with texts of its own. -/
theorem view_tableMembers (state : State) : Flat.view state "table" (tableMembers headers rows) =
    View.tableView [("scope", .str "col")] [] (headers.map Flat.cellText)
      (rows.map fun row => row.map Flat.cellText) := by
  have hheaders : Flat.listItems (Json.member (tableMembers headers rows) "headers") =
      headers := rfl
  have hrows : (Flat.listItems (Json.member (tableMembers headers rows) "rows")).map
      Flat.listItems = rows := by
    show (rows.map Json.arr).map Flat.listItems = rows
    rw [List.map_map]
    exact List.map_id _
  show Flat.tableView (tableMembers headers rows) = _
  rw [Flat.tableView, hheaders, hrows, View.tableView, View.captions, View.tableRows]
  simp [View.captions, Function.comp_def]

theorem tabulates_tableMembers (state : State) :
    (Flat.view state "table" (tableMembers headers rows)).Tabulates (headers.map Flat.cellText)
      (rows.map fun row => row.map Flat.cellText) := by
  rw [view_tableMembers]
  exact View.tabulates_tableView ..

end

/-! ## The two shapes side by side -/

/--
**Both shapes show the same rows and cells**, in the same order and as many of each. They show the
same texts in the head, and in the body, exactly if there is no null among the values there.
-/
theorem tables_agree_iff (headers : List Json) (rows : List (List Json)) :
    ∃ root members, tree (.str "table") (tableParameters headers rows) = .ok root ∧
      Flat.definition (.str "table") (tableParameters headers rows) = .ok (.obj members) ∧
      Definition.parse (.obj members) = .ok (some (.flat "table" members), []) ∧
      ∀ state state' : State,
        let v := root.view state
        let w := Flat.view state' "table" members
        v.Tabulates (headers.map cellText) (rows.map fun row => row.map cellText) ∧
        w.Tabulates (headers.map Flat.cellText) (rows.map fun row => row.map Flat.cellText) ∧
        w.bodies.map (List.map List.length) = v.bodies.map (List.map List.length) ∧
        (w.heads = v.heads ↔ .null ∉ headers) ∧
        (w.bodies = v.bodies ↔ ∀ row ∈ rows, .null ∉ row) := by
  refine ⟨_, _, tree_table headers rows, definition_table headers rows,
    parse_tableMembers headers rows, fun state state' => ?_⟩
  have hv := tabulates_tableRoot headers rows state
  have hw := tabulates_tableMembers headers rows state'
  refine ⟨hv, hw, ?_, ?_, ?_⟩
  · rw [hv.shape, hw.shape]
    simp [Function.comp_def]
  · rw [hv.heads_eq_iff hw, map_flat_cellText_eq_iff]
  · rw [hv.bodies_eq_iff hw, List.map_inj_left]
    exact forall₂_congr fun row _ => map_flat_cellText_eq_iff row

/-- An empty cell does not show the same in both shapes. -/
theorem not_tables_agree :
    ¬ ∀ (headers : List Json) (rows : List (List Json)) (root : Node)
      (members : List (String × Json)) (state : State),
      tree (.str "table") (tableParameters headers rows) = .ok root →
      Flat.definition (.str "table") (tableParameters headers rows) = .ok (.obj members) →
        (Flat.view state "table" members).heads = (root.view state).heads ∧
        (Flat.view state "table" members).bodies = (root.view state).bodies := by
  intro h
  let headers : List Json := [.str "a"]
  let rows : List (List Json) := [[.null]]
  obtain ⟨-, hbodies⟩ :=
    h headers rows _ _ ∅ (tree_table headers rows) (definition_table headers rows)
  have hv := tabulates_tableRoot headers rows ∅
  have hw := tabulates_tableMembers headers rows ∅
  rw [hv.bodies_eq_iff hw] at hbodies
  -- the one cell is empty in the tree and says null in the flat definition
  exact absurd hbodies (by decide)

end Build

end AssistantUI
