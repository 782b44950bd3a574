import AssistantUI.Proofs.Render.Elements
import AssistantUI.Session.Mount

/-!
# What is sent is well formed

A platform is sent JSON, and it relies on a grammar: texts and elements only, in lists that are not
empty, with nothing in an element that cannot have children, and with a placeholder for each name
that is to be called back. Whatever props, texts and components a definition holds, and whatever the
state is, what is rendered of it is in that grammar (`Definition.isView_render`).

Of the elements themselves the grammar asks no more than that they are sound (`Element.Sound`), and
an element without callbacks is sound if its tag may have children. So for the flat layouts there is
little left to show but their shape.
-/

namespace AssistantUI

/-! ## The grammar -/

/-- The values that a platform can show: texts and elements. -/
inductive Json.IsView : Json → Prop where
  | text (s : String) : IsView (.str s)
  /-- An element has children, props and names only if there are any. -/
  | element {members : List (String × Json)} (tag : Tag) (props : List (String × Json))
      (items : List Json) (eval : List String)
      (htag : Dict.find "tag" members = some (.str tag.name))
      (hprops : Dict.find "props" members = if props.isEmpty then none else some (.obj props))
      (hitems : Dict.find "children" members = if items.isEmpty then none else some (.arr items))
      (heval : Dict.find "eval" members =
        if eval.isEmpty then none else some (.arr (eval.map .str)))
      (hvoid : tag.isVoid = true → items = [])
      (hsorted : eval.Pairwise (· < ·))
      (hplaceholders : ∀ name ∈ eval, Dict.find name props = some (.str "$cb"))
      (hviews : ∀ j ∈ items, IsView j) : IsView (.obj members)

/-! ## Elements -/

/-- Of the members of an element, those that would be empty are left out. -/
theorem Element.members_toJsonWith {β : Type} (e : Element β) (children : List Json) :
    ∃ members, e.toJsonWith children = .obj members ∧
      Dict.find "tag" members = some (.str e.tag.name) ∧
      Dict.find "props" members =
        (if e.props.entries.isEmpty then none else some (.obj e.props.entries)) ∧
      Dict.find "children" members =
        (if children.isEmpty then none else some (.arr children)) ∧
      Dict.find "eval" members =
        if e.eval.isEmpty then none else some (.arr (e.eval.map .str)) := by
  unfold toJsonWith Dict.isEmpty Json.ofDict
  refine ⟨_, rfl, rfl, ?_, ?_, ?_⟩
  all_goals
    cases e.props.entries.isEmpty <;> cases children.isEmpty <;> cases e.eval.isEmpty <;> rfl

namespace View

theorem listToJson_eq_map (vs : List View) : listToJson vs = vs.map toJson := by
  induction vs with
  | nil => rfl
  | cons v rest ih => rw [listToJson, ih, List.map_cons]

theorem isView_text (s : String) : (text s).toJson.IsView := by
  rw [toJson]
  exact .text s

theorem isView_element {e : Element View} (h : e.Sound)
    (hviews : ∀ v ∈ e.children, v.toJson.IsView) : (element e).toJson.IsView := by
  obtain ⟨members, hmembers, htag, hprops, hitems, heval⟩ :=
    e.members_toJsonWith (e.children.map toJson)
  have hjson : (element e).toJson = .obj members := by
    rw [← hmembers, ← listToJson_eq_map, toJson]
    cases e
    rw [elementToJson]
  rw [hjson]
  refine .element e.tag e.props.entries _ e.eval htag hprops hitems heval ?_ h.sorted
    h.placeholders ?_
  · intro hvoid
    rw [h.void hvoid, List.map_nil]
  · intro j hj
    obtain ⟨v, hv, rfl⟩ := List.mem_map.mp hj
    exact hviews v hv

section

variable {tag : Tag} {props : List (String × Json)} (htag : tag.isVoid = false)
include htag

/-- Without callbacks, an element that may have children is well formed if these are. -/
theorem isView_el {children : List View} (hviews : ∀ v ∈ children, v.toJson.IsView) :
    (el tag props children).toJson.IsView :=
  isView_element (Element.sound_of_eval_nil htag) hviews

theorem isView_el_one {v : View} (hv : v.toJson.IsView) : (el tag props [v]).toJson.IsView :=
  isView_el htag (List.forall_mem_singleton.mpr hv)

theorem isView_el_two {v w : View} (hv : v.toJson.IsView) (hw : w.toJson.IsView) :
    (el tag props [v, w]).toJson.IsView :=
  isView_el htag (List.forall_mem_cons.mpr ⟨hv, List.forall_mem_singleton.mpr hw⟩)

theorem isView_el_text {s : String} : (el tag props [.text s]).toJson.IsView :=
  isView_el_one htag (isView_text s)

end

end View

/-! ## Trees -/

/-- The children of a node's element are what the node's children show, if they are shown at all,
and the line of text of an unknown type. -/
theorem Node.isView_view_of_children {n : Node} {state : State}
    (h : ∀ v ∈ n.children.views state, v.toJson.IsView) : (n.view state).toJson.IsView := by
  rw [Node.view_eq]
  refine View.isView_element (n.sound_element state) fun v hv => ?_
  cases htag : Tag.ofName? n.type with
  | none =>
    rw [Element.ofNode_unknown htag] at hv
    rcases List.mem_cons.mp hv with rfl | hv
    · exact View.isView_text _
    · exact h v hv
  | some tag =>
    rw [Element.ofNode_known htag, Element.known] at hv
    dsimp only at hv
    split at hv
    · exact absurd hv List.not_mem_nil
    · exact h v hv

mutual

theorem Node.isView_view (n : Node) (state : State) : (n.view state).toJson.IsView := by
  match n with
  | ⟨type, props, children, events, bindings⟩ =>
    exact Node.isView_view_of_children (Content.isView_views children state)

theorem Content.isView_views (c : Content) (state : State) :
    ∀ v ∈ c.views state, v.toJson.IsView := by
  match c with
  | .empty => exact fun v hv => absurd hv List.not_mem_nil
  | .text s =>
    intro v hv
    rw [List.mem_singleton.mp hv]
    exact View.isView_text s
  | .single n =>
    intro v hv
    rw [List.mem_singleton.mp hv]
    exact Node.isView_view n state
  | .many items => exact Content.isView_viewsOfList items state

theorem Content.isView_viewsOfList (cs : List Content) (state : State) :
    ∀ v ∈ Content.viewsOfList state cs, v.toJson.IsView := by
  match cs with
  | [] => exact fun v hv => absurd hv List.not_mem_nil
  | c :: rest =>
    intro v hv
    rw [Content.viewsOfList] at hv
    rcases List.mem_append.mp hv with hv | hv
    · exact Content.isView_views c state v hv
    · exact Content.isView_viewsOfList rest state v hv

end

/-! ## Flat layouts -/

namespace Flat

open View (isView_el isView_el_one isView_el_two isView_el_text isView_element isView_text)

theorem isView_title (s : String) : (title s).toJson.IsView := isView_el_text rfl

theorem isView_filterMap {f : Component → Option View}
    (h : ∀ c v, f c = some v → v.toJson.IsView) (components : List Component) :
    ∀ v ∈ components.filterMap f, v.toJson.IsView := by
  intro v hv
  obtain ⟨c, -, hc⟩ := List.mem_filterMap.mp hv
  exact h c v hc

theorem isView_map {α : Type} {f : α → View} (h : ∀ a, (f a).toJson.IsView) (l : List α) :
    ∀ v ∈ l.map f, v.toJson.IsView := by
  intro v hv
  obtain ⟨a, -, rfl⟩ := List.mem_map.mp hv
  exact h a

/-- An element with one callback has to have its placeholder. -/
theorem sound_of_callback {tag : Tag} {props : Dict String Json} {children : List View}
    {name : String} (hvoid : tag.isVoid = true → children = [])
    (hname : props.get? name = some callbackPlaceholder) :
    (⟨tag, props, children, [name]⟩ : Element View).Sound where
  void := hvoid
  sorted := List.pairwise_singleton _ _
  placeholders := List.forall_mem_singleton.mpr hname

theorem isView_fieldView (state : State) (kind : FieldKind) (c : Component) :
    (fieldView state kind c).toJson.IsView := by
  have hcontrol : (fieldProps state kind c).get? "onChange" = some callbackPlaceholder := by
    rw [fieldProps]
    cases kind <;> rfl
  refine isView_el_two rfl ?_ ?_
  · refine isView_el rfl (List.forall_mem_cons.mpr ⟨isView_text _, ?_⟩)
    split
    · exact List.forall_mem_singleton.mpr (isView_el_text rfl)
    · exact List.forall_mem_nil _
  · exact isView_element (sound_of_callback (fun _ => rfl) hcontrol) (List.forall_mem_nil _)

theorem isView_formItem (state : State) (c : Component) (v : View)
    (h : formItem state c = some v) : v.toJson.IsView := by
  unfold formItem at h
  split at h
  · rw [← Option.some.inj h]
    exact isView_fieldView state _ c
  · split at h
    · rw [← Option.some.inj h]
      exact isView_el_one rfl (isView_el_text rfl)
    · cases h

theorem isView_formView (state : State) (components : List Component) :
    (formView state components).toJson.IsView := by
  refine isView_el_two rfl (isView_title _) ?_
  exact isView_element (sound_of_callback nofun rfl)
    (isView_filterMap (isView_formItem state) components)

theorem isView_cardView? (c : Component) (v : View) (h : cardView? c = some v) :
    v.toJson.IsView := by
  obtain ⟨body, hbody, rfl⟩ := Option.map_eq_some_iff.mp h
  refine isView_el_two rfl (isView_el_text rfl) ?_
  split at hbody
  · rw [← Option.some.inj hbody]
    exact isView_el_text rfl
  · split at hbody
    · rw [← Option.some.inj hbody]
      exact isView_el_one rfl (isView_el_text rfl)
    · cases hbody

theorem isView_dashboardView (components : List Component) :
    (dashboardView components).toJson.IsView :=
  isView_el_two rfl (isView_title _) (isView_el rfl (isView_filterMap isView_cardView? components))

theorem isView_chartView (ms : Component) : (chartView ms).toJson.IsView := by
  refine isView_el rfl (List.forall_mem_cons.mpr ⟨isView_title _, List.forall_mem_cons.mpr
    ⟨?_, List.forall_mem_singleton.mpr ?_⟩⟩)
  · exact isView_el_one rfl (isView_el_text rfl)
  · exact isView_el_two rfl (isView_el_text rfl) (isView_el_text rfl)

theorem isView_tableView (ms : Component) : (tableView ms).toJson.IsView := by
  have hcells (tag : Tag) (htag : tag.isVoid = false) (props : List (String × Json))
      (cells : List Json) : (View.el .tr []
        (cells.map fun cell => .el tag props [.text (cellText cell)])).toJson.IsView :=
    isView_el rfl (isView_map (fun _ => isView_el_text htag) cells)
  refine isView_el_two rfl (isView_title _) (isView_el_one rfl (isView_el_two rfl ?_ ?_))
  · exact isView_el_one rfl (hcells .th rfl _ _)
  · exact isView_el rfl (isView_map (hcells .td rfl _) _)

theorem isView_view (state : State) (type : String) (members : Component) :
    (view state type members).toJson.IsView := by
  unfold view
  split
  · exact isView_formView state _
  · exact isView_dashboardView _
  · exact isView_chartView members
  · exact isView_tableView members
  · exact isView_el_text rfl
  · exact isView_el_one rfl (isView_el_text rfl)

end Flat

/-- **What is sent is well formed**, whatever the definition and the state hold. -/
theorem Definition.isView_render (d : Definition) (state : State) :
    (Definition.render? state (some d)).toJson.IsView := by
  cases d with
  | tree root => exact root.isView_view state
  | flat type members => exact Flat.isView_view state type members

end AssistantUI
