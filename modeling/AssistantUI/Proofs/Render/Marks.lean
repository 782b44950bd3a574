import AssistantUI.Proofs.Render.Origin

/-!
# What a reader comes to

Whoever reads what is shown from its beginning comes to texts and tags, each tag before whatever is
in its element. How lists are nested, which items are empty and where positions lie is not seen any
more by then. So the order can be read off a definition as well, and it is the same.

On one side stands what is sent to a platform (`Json.marks`): an element there is an object, which
has no list of children at all if there are none. On the other side stands the definition
(`Content.marks`), in which a node of an unknown type counts as a box with a line of text, and
whatever lies below a void tag does not count.
-/

namespace AssistantUI

/-- What a reader comes to. -/
inductive Mark where
  | text (s : String)
  /-- The beginning of an element, by the name of its tag. -/
  | tag (name : String)
  deriving DecidableEq

/-! ## Reading what is sent -/

/-- The tag among the members of an element. -/
def Json.tagMarks (members : List (String × Json)) : List Mark :=
  match Json.member members "tag" with
  | .str name => [.tag name]
  | _ => []

mutual

/-- What a reader of a rendered value comes to. -/
def Json.marks (j : Json) : List Mark :=
  match j with
  | .str s => [.text s]
  | .arr items => Json.marksOfItems items
  | .obj members => Json.tagMarks members ++ Json.marksOfChildren members
  | .null | .bool _ | .int _ | .float _ => []

/-- What a reader of some rendered values comes to, one after the other. -/
def Json.marksOfItems (items : List Json) : List Mark :=
  match items with
  | [] => []
  | j :: rest => Json.marks j ++ Json.marksOfItems rest

/-- What a reader comes to in the children of an element, if it has any. -/
def Json.marksOfChildren (members : List (String × Json)) : List Mark :=
  match members with
  | [] => []
  | (k, j) :: rest => if k = "children" then Json.marks j else Json.marksOfChildren rest

end

/-! ## Reading a definition -/

mutual

/-- What a reader comes to at a node: its element, and what is in it. -/
def Node.marks (n : Node) : List Mark :=
  match n with
  | ⟨type, _, children, _, _⟩ =>
    match Tag.ofName? type with
    | some tag => .tag type :: if tag.isVoid then [] else Content.marks children
    | none =>
      .tag Tag.div.name :: .text ("Unknown component type: " ++ type) :: Content.marks children

/-- What a reader comes to in a content. -/
def Content.marks (c : Content) : List Mark :=
  match c with
  | .empty => []
  | .text s => [.text s]
  | .single n => Node.marks n
  | .many items => Content.marksOfList items

/-- What a reader comes to in a list of contents. -/
def Content.marksOfList (cs : List Content) : List Mark :=
  match cs with
  | [] => []
  | c :: rest => Content.marks c ++ Content.marksOfList rest

end

/-! ## They are the same -/

namespace View

/-- What a reader of some views comes to. -/
def marksOfList (vs : List View) : List Mark := Json.marksOfItems (listToJson vs)

theorem marksOfList_append (vs ws : List View) :
    marksOfList (vs ++ ws) = marksOfList vs ++ marksOfList ws := by
  unfold marksOfList
  induction vs with
  | nil => rfl
  | cons v rest ih =>
    rw [List.cons_append, listToJson, Json.marksOfItems, ih, listToJson, Json.marksOfItems,
      List.append_assoc]

theorem marksOfList_cons (v : View) (rest : List View) :
    marksOfList (v :: rest) = v.toJson.marks ++ marksOfList rest := by
  rw [marksOfList, listToJson, Json.marksOfItems, marksOfList]

theorem marksOfList_singleton (v : View) : marksOfList [v] = v.toJson.marks :=
  (marksOfList_cons v []).trans (List.append_nil _)

/-- The parts of an element that are left out hold nothing that a reader would come to. -/
theorem marks_toJsonWith {β : Type} (e : Element β) (children : List Json) :
    (e.toJsonWith children).marks = .tag e.tag.name :: Json.marksOfItems children := by
  unfold Element.toJsonWith
  rw [Json.marks]
  cases children with
  | nil => cases e.props.isEmpty <;> cases e.eval.isEmpty <;> rfl
  | cons j rest => cases e.props.isEmpty <;> cases e.eval.isEmpty <;> rfl

theorem marks_element (e : Element View) :
    (element e).toJson.marks = .tag e.tag.name :: marksOfList e.children := by
  cases e
  rw [toJson, elementToJson, marks_toJsonWith, marksOfList]

end View

mutual

theorem Node.marks_view (n : Node) (state : State) : (n.view state).toJson.marks = n.marks := by
  match n with
  | ⟨type, props, children, events, bindings⟩ =>
    have hbelow := Content.marks_views children state
    rw [Node.view_eq, View.marks_element, Node.marks]
    cases htag : Tag.ofName? type with
    | none =>
      rw [Element.ofNode_unknown htag, Element.unknown, View.marksOfList_cons, hbelow]
      rfl
    | some tag =>
      rw [Element.ofNode_known htag, Element.known, Tag.name_of_ofName? htag]
      dsimp only
      by_cases hvoid : tag.isVoid = true
      · rw [if_pos hvoid, if_pos hvoid]
        rfl
      · rw [if_neg hvoid, if_neg hvoid, hbelow]

theorem Content.marks_views (c : Content) (state : State) :
    View.marksOfList (c.views state) = c.marks := by
  match c with
  | .empty | .text _ => rfl
  | .single n =>
    rw [Content.views, View.marksOfList_singleton, Content.marks]
    exact Node.marks_view n state
  | .many items => exact Content.marks_viewsOfList items state

theorem Content.marks_viewsOfList (cs : List Content) (state : State) :
    View.marksOfList (Content.viewsOfList state cs) = Content.marksOfList cs := by
  match cs with
  | [] => rfl
  | c :: rest =>
    rw [Content.viewsOfList, View.marksOfList_append, Content.marks_views c state,
      Content.marks_viewsOfList rest state, Content.marksOfList]

end

/-- **Nothing is lost, shown twice or moved.** A reader of what is sent comes to the texts and tags
of the definition in their order, whatever the state is. -/
theorem Content.marks_render (c : Content) (state : State) :
    (c.render state).toJson.marks = c.marks := by
  cases c with
  | empty => rfl
  | text s => rfl
  | single n => exact n.marks_view state
  | many items => exact marks_viewsOfList items state

/-- What lies below the void tag is lost, and the box of the unknown type has its line of text. -/
example : Content.tangled.marks =
    [.tag "div", .text "a", .tag "input", .text "b", .tag "div",
      .text "Unknown component type: widget", .tag "input"] := by decide +kernel

end AssistantUI
