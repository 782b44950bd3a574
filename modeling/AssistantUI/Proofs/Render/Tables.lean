import Mathlib.Data.List.Basic
import AssistantUI.Proofs.Render.Elements
import AssistantUI.Render.Flat

/-!
# Tables in views

What a table shows is read off a view by tags alone, as a platform does: the header cells below each
head, and for each row below each body the cells below it. `View.Tabulates` says that a view is one
table with given texts, and has no cell or row anywhere else.

All tables are shown in one layout (`View.tableView`), in which only the props and the texts of the
cells vary. What is read off it are the texts, whatever the props are (`tabulates_tableView`), and
no two tables with different texts are read as the same.
-/

namespace AssistantUI

/-! ## Reading a table off a view -/

namespace View

/-- The elements of a tag, among some views and below them, in the order in which they are shown. -/
def tagged (tag : Tag) (vs : List View) : List (Element View) :=
  (elementsOfList vs).filter fun e => e.tag = tag

/-- For each head of a table, what its header cells show, one by one. -/
def heads (v : View) : List (List (List View)) :=
  (tagged .thead [v]).map fun head => (tagged .th head.children).map Element.children

/-- For each body of a table, what the cells of its rows show, row by row. -/
def bodies (v : View) : List (List (List (List View))) :=
  (tagged .tbody [v]).map fun body =>
    (tagged .tr body.children).map fun row => (tagged .td row.children).map Element.children

/--
The view is one table. Its head has a cell for each header and its body a row for each row, with a
cell for each cell of it, in order; every cell shows its text and nothing else, and there is no
cell or row anywhere else in the view, other than the row that the headers are in.
-/
structure Tabulates (headers : List String) (rows : List (List String)) (v : View) : Prop where
  heads : v.heads = [headers.map fun s => [.text s]]
  bodies : v.bodies = [rows.map fun row => row.map fun s => [.text s]]
  headerCount : (tagged .th [v]).length = headers.length
  rowCount : (tagged .tr [v]).length = rows.length + 1
  cellCount : (tagged .td [v]).length = rows.flatten.length

section

variable (t tag : Tag) (props : List (String × Json)) (rest : List View)

@[simp] theorem tagged_nil : tagged t [] = [] := rfl

@[simp] theorem tagged_text (s : String) : tagged t (.text s :: rest) = tagged t rest := rfl

@[simp] theorem tagged_el (children : List View) : tagged t (.el tag props children :: rest) =
    (if tag = t then [⟨tag, Dict.ofList props, children, []⟩] else []) ++
      (tagged t children ++ tagged t rest) := by
  rw [tagged, elementsOfList, el, elements_element, List.cons_append, List.filter_cons,
    List.filter_append]
  by_cases htag : tag = t <;> simp [htag, tagged]

theorem tagged_map {α : Type} (f : α → View) (as : List α) :
    tagged t (as.map f) = as.flatMap fun a => tagged t [f a] := by
  induction as with
  | nil => rfl
  | cons a as ih =>
    rw [List.map_cons, List.flatMap_cons, ← ih, tagged, ← List.singleton_append,
      elementsOfList_append, List.filter_append]
    rfl

end

/-! ## The layout of a table -/

/-- Elements that show a text each. -/
def captions (tag : Tag) (props : List (String × Json)) (texts : List String) : List View :=
  texts.map fun s => .el tag props [.text s]

/-- The rows of the body of a table. -/
def tableRows (cellProps : List (String × Json)) (rows : List (List String)) : List View :=
  rows.map fun row => .el .tr [] (captions .td cellProps row)

/-- A table with the props and the texts of its cells. -/
def tableView (headerProps cellProps : List (String × Json)) (headers : List String)
    (rows : List (List String)) : View :=
  .el .div [("className", .str "dynamic-table")]
    [Flat.title "Data Table",
     .el .div [("className", .str "overflow-x-auto")]
      [.el .table [("className", .str "min-w-full divide-y divide-gray-200")]
        [.el .thead [("className", .str "bg-gray-50")]
          [.el .tr [] (captions .th headerProps headers)],
         .el .tbody [("className", .str "bg-white divide-y divide-gray-200")]
          (tableRows cellProps rows)]]]

section

variable {t tag : Tag} {props : List (String × Json)}

theorem tagged_captions (texts : List String) : tagged tag (captions tag props texts) =
    texts.map fun s => ⟨tag, Dict.ofList props, [.text s], []⟩ := by
  rw [captions, tagged_map, List.map_eq_flatMap]
  simp

theorem tagged_captions_of_ne (h : tag ≠ t) (texts : List String) :
    tagged t (captions tag props texts) = [] := by
  rw [captions, tagged_map]
  simp [h]

theorem tagged_tr_tableRows (rows : List (List String)) : tagged .tr (tableRows props rows) =
    rows.map fun row => ⟨.tr, Dict.ofList [], captions .td props row, []⟩ := by
  rw [tableRows, tagged_map, List.map_eq_flatMap]
  simp [tagged_captions_of_ne]

theorem tagged_td_tableRows (rows : List (List String)) : tagged .td (tableRows props rows) =
    rows.flatMap fun row => row.map fun s => ⟨.td, Dict.ofList props, [.text s], []⟩ := by
  rw [tableRows, tagged_map]
  simp [tagged_captions]

/-- There is nothing but rows and cells among the rows of a body. -/
theorem tagged_tableRows_of_ne (hrow : .tr ≠ t) (hcell : .td ≠ t) (rows : List (List String)) :
    tagged t (tableRows props rows) = [] := by
  rw [tableRows, tagged_map]
  simp [hrow, tagged_captions_of_ne hcell]

end

section

variable (headerProps cellProps : List (String × Json)) (headers : List String)
  (rows : List (List String))

/-- Outside of head and body there is nothing that belongs to either. -/
theorem tagged_tableView {t : Tag} (h : t ∈ [Tag.thead, .tbody, .tr, .th, .td]) :
    tagged t [tableView headerProps cellProps headers rows] =
      tagged t [.el .thead [("className", .str "bg-gray-50")]
          [.el .tr [] (captions .th headerProps headers)]] ++
        tagged t [.el .tbody [("className", .str "bg-white divide-y divide-gray-200")]
          (tableRows cellProps rows)] := by
  have hdiv : Tag.div ≠ t := (ne_of_mem_of_not_mem h (by decide)).symm
  have hh3 : Tag.h3 ≠ t := (ne_of_mem_of_not_mem h (by decide)).symm
  have htable : Tag.table ≠ t := (ne_of_mem_of_not_mem h (by decide)).symm
  simp [tableView, Flat.title, hdiv, hh3, htable]

theorem heads_tableView : (tableView headerProps cellProps headers rows).heads =
    [headers.map fun s => [.text s]] := by
  rw [heads, tagged_tableView _ _ _ _ (by decide)]
  simp [tagged_captions_of_ne, tagged_tableRows_of_ne, tagged_captions, Function.comp_def]

theorem bodies_tableView : (tableView headerProps cellProps headers rows).bodies =
    [rows.map fun row => row.map fun s => [.text s]] := by
  rw [bodies, tagged_tableView _ _ _ _ (by decide)]
  simp [tagged_captions_of_ne, tagged_tableRows_of_ne, tagged_captions, tagged_tr_tableRows,
    Function.comp_def]

/-- What the layout says is what is read off it, whatever its cells look like. -/
theorem tabulates_tableView :
    (tableView headerProps cellProps headers rows).Tabulates headers rows where
  heads := heads_tableView ..
  bodies := bodies_tableView ..
  headerCount := by
    rw [tagged_tableView _ _ _ _ (by decide)]
    simp [tagged_captions, tagged_tableRows_of_ne]
  rowCount := by
    rw [tagged_tableView _ _ _ _ (by decide)]
    simp [tagged_captions_of_ne, tagged_tr_tableRows]
  cellCount := by
    rw [tagged_tableView _ _ _ _ (by decide)]
    simp [tagged_captions_of_ne, tagged_td_tableRows, List.length_flatMap]

end

theorem text_singleton_injective : Function.Injective fun s : String => [text s] := by
  intro s t h
  exact text.inj (List.singleton_injective h)

section

variable {headers headers' : List String} {rows rows' : List (List String)} {v w : View}

/-- How many rows there are and how many cells in each. -/
theorem Tabulates.shape (hv : v.Tabulates headers rows) :
    v.bodies.map (List.map List.length) = [rows.map List.length] := by
  rw [hv.bodies]
  simp [Function.comp_def]

theorem Tabulates.heads_eq_iff (hv : v.Tabulates headers rows) (hw : w.Tabulates headers' rows') :
    w.heads = v.heads ↔ headers' = headers := by
  rw [hw.heads, hv.heads, List.singleton_inj]
  exact (List.map_injective_iff.mpr text_singleton_injective).eq_iff

theorem Tabulates.bodies_eq_iff (hv : v.Tabulates headers rows)
    (hw : w.Tabulates headers' rows') : w.bodies = v.bodies ↔ rows' = rows := by
  rw [hw.bodies, hv.bodies, List.singleton_inj]
  exact (List.map_injective_iff.mpr
    (List.map_injective_iff.mpr text_singleton_injective)).eq_iff

end

end View

end AssistantUI
