import AssistantUI.Proofs.Render.Containment

/-!
# Lists in lists

A list that is an item of a list shows what its items would show in the list around it, and an
empty item shows nothing. So every content shows the same as one in which lists have only texts
and nodes as items (`Content.spliced`), at any depth and below elements of any type. Positions are
another matter: they count what is spliced and what is left out, so the keys of callbacks are not
the same. The callbacks themselves are, and so is their order.

The two are compared by their nodes in pre-order, each by itself and wherever it stands
(`Content.inOrder`). Where keys have to be the same as well, nodes are compared along with their
chains, and in such a way that it does not matter what is around them (`Content.Alike`).
-/

namespace AssistantUI

/-! ## Splicing -/

/-- The items that a content adds to a list around it. -/
def Content.asItems : Content → List Content
  | .empty => []
  | .many items => items
  | c => [c]

mutual

/-- The node with the lists below it spliced. -/
def Node.spliced (n : Node) : Node :=
  match n with
  | ⟨type, props, children, events, bindings⟩ =>
    ⟨type, props, Content.spliced children, events, bindings⟩

/-- The content without empty items, and with lists spliced into the lists around them. -/
def Content.spliced (c : Content) : Content :=
  match c with
  | .empty => .empty
  | .text s => .text s
  | .single n => .single (Node.spliced n)
  | .many items => .many (Content.splicedItems items)

/-- The items of a list, with those of the lists among them. -/
def Content.splicedItems (cs : List Content) : List Content :=
  match cs with
  | [] => []
  | c :: rest => (Content.spliced c).asItems ++ Content.splicedItems rest

end

mutual

/-- Is every list below the node one of texts and nodes? -/
def Node.isPlain (n : Node) : Bool :=
  match n with
  | ⟨_, _, children, _, _⟩ => Content.isPlain children

/-- Is every list in the content one of texts and nodes? -/
def Content.isPlain (c : Content) : Bool :=
  match c with
  | .empty => true
  | .text _ => true
  | .single n => Node.isPlain n
  | .many items => Content.arePlain items

/-- Are the items texts and nodes, and so are those of every list in them? -/
def Content.arePlain (cs : List Content) : Bool :=
  match cs with
  | [] => true
  | c :: rest => Content.isOne c && Content.isPlain c && Content.arePlain rest

end

namespace Content

theorem arePlain_append (cs ds : List Content) :
    arePlain (cs ++ ds) = (arePlain cs && arePlain ds) := by
  induction cs with
  | nil => rfl
  | cons c rest ih =>
    rw [List.cons_append, arePlain, ih, arePlain, Bool.and_assoc, Bool.and_assoc, Bool.and_assoc]

theorem arePlain_asItems {c : Content} (h : c.isPlain = true) : arePlain c.asItems = true := by
  cases c with
  | empty => rfl
  | text s => rfl
  | single n =>
    show (true && (single n).isPlain && true) = true
    rw [h]
    rfl
  | many items => exact h

end Content

mutual

theorem Node.isPlain_spliced (n : Node) : n.spliced.isPlain = true := by
  match n with
  | ⟨type, props, children, events, bindings⟩ => exact Content.isPlain_spliced children

theorem Content.isPlain_spliced (c : Content) : c.spliced.isPlain = true := by
  match c with
  | .empty | .text _ => rfl
  | .single n => exact Node.isPlain_spliced n
  | .many items => exact Content.arePlain_splicedItems items

theorem Content.arePlain_splicedItems (cs : List Content) :
    Content.arePlain (Content.splicedItems cs) = true := by
  match cs with
  | [] => rfl
  | c :: rest =>
    rw [Content.splicedItems, Content.arePlain_append,
      Content.arePlain_asItems (Content.isPlain_spliced c), Content.arePlain_splicedItems rest]
    rfl

end

/-! ## What splicing leaves -/

namespace Content

theorem viewsOfList_eq (state : State) (cs : List Content) :
    viewsOfList state cs = cs.flatMap (views state) := by
  induction cs with
  | nil => rfl
  | cons c rest ih => rw [viewsOfList, List.flatMap_cons, ih]

/-- In a list around it a content shows what its items show there. -/
theorem flatMap_views_asItems (state : State) (c : Content) :
    c.asItems.flatMap (views state) = c.views state := by
  cases c with
  | empty => rfl
  | text s => rfl
  | single n => exact List.flatMap_singleton _ _
  | many items => exact (viewsOfList_eq state items).symm

theorem flatMap_inOrder_asItems (c : Content) : c.asItems.flatMap inOrder = c.inOrder := by
  cases c with
  | empty => rfl
  | text s => rfl
  | single n => exact List.flatMap_singleton _ _
  | many items => exact (inOrderOfItems_eq items).symm

end Content

mutual

theorem Node.view_spliced (state : State) (n : Node) : n.spliced.view state = n.view state := by
  match n with
  | ⟨type, props, children, events, bindings⟩ =>
    rw [Node.spliced, Node.view, Content.views_spliced state children, Node.view]
    rfl

theorem Content.views_spliced (state : State) (c : Content) :
    c.spliced.views state = c.views state := by
  match c with
  | .empty | .text _ => rfl
  | .single n => exact congrArg (fun v => [v]) (Node.view_spliced state n)
  | .many items => exact Content.viewsOfList_splicedItems state items

theorem Content.viewsOfList_splicedItems (state : State) (cs : List Content) :
    Content.viewsOfList state (Content.splicedItems cs) = Content.viewsOfList state cs := by
  match cs with
  | [] => rfl
  | c :: rest =>
    have hrest := Content.viewsOfList_splicedItems state rest
    rw [Content.viewsOfList_eq] at hrest
    rw [Content.viewsOfList_eq, Content.splicedItems, List.flatMap_append,
      Content.flatMap_views_asItems, Content.views_spliced state c, hrest, Content.viewsOfList]

end

mutual

theorem Node.inOrder_spliced (n : Node) : n.spliced.inOrder = n.inOrder := by
  match n with
  | ⟨type, props, children, events, bindings⟩ =>
    rw [Node.spliced, Node.inOrder, Content.inOrder_spliced children, Node.inOrder]

theorem Content.inOrder_spliced (c : Content) : c.spliced.inOrder = c.inOrder := by
  match c with
  | .empty | .text _ => rfl
  | .single n => exact Node.inOrder_spliced n
  | .many items => exact Content.inOrderOfItems_splicedItems items

theorem Content.inOrderOfItems_splicedItems (cs : List Content) :
    Content.inOrderOfItems (Content.splicedItems cs) = Content.inOrderOfItems cs := by
  match cs with
  | [] => rfl
  | c :: rest =>
    have hrest := Content.inOrderOfItems_splicedItems rest
    rw [Content.inOrderOfItems_eq] at hrest
    rw [Content.inOrderOfItems_eq, Content.splicedItems, List.flatMap_append,
      Content.flatMap_inOrder_asItems, Content.inOrder_spliced c, hrest, Content.inOrderOfItems]

end

theorem Content.render_spliced (state : State) (c : Content) :
    c.spliced.render state = c.render state := by
  cases c with
  | empty => rfl
  | text s => rfl
  | single n => exact congrArg Rendered.one (n.view_spliced state)
  | many items => exact congrArg Rendered.many (viewsOfList_splicedItems state items)

/-! ## Only children and lists of one -/

/-- Nodes with their chains, each by itself. -/
def bared (nodes : List (Chain × Node)) : List (Chain × Node) := nodes.map fun e => (e.1, e.2.bare)

/-- The contents show the same and have the same nodes at the same chains, wherever they stand. -/
structure Content.Alike (c c' : Content) : Prop where
  render : ∀ state, c.render state = c'.render state
  nodes : ∀ q, bared (c.nodes q) = bared (c'.nodes q)
  nodesBelow : ∀ q, bared (c.nodesBelow q) = bared (c'.nodesBelow q)

namespace Content.Alike

variable {c c' : Content}

theorem views (h : c.Alike c') (state : State) : c.views state = c'.views state := by
  have hlist (d : Content) : (d.render state).toList = d.views state := by cases d <;> rfl
  rw [← hlist, ← hlist, h.render]

/-- A node is the same around children that are alike. -/
theorem children (h : c.Alike c') (n : Node) :
    (single { n with children := c }).Alike (single { n with children := c' }) := by
  have hnodes (q : Chain) :
      bared (Node.nodes q { n with children := c }) =
        bared (Node.nodes q { n with children := c' }) := by
    -- by itself the node is the same, so that only what is below it counts
    rw [Node.nodes_eq, Node.nodes_eq]
    exact congrArg ((q, n.bare) :: ·) (h.nodesBelow q)
  refine ⟨fun state => ?_, hnodes, fun q => hnodes (q ++ [0])⟩
  have hview : Node.view state { n with children := c } =
      Node.view state { n with children := c' } := by
    rw [Node.view_eq, Node.view_eq]
    dsimp only
    rw [h.views state]
    rfl
  exact congrArg Rendered.one hview

/-- A list is the same around an item that is alike. -/
theorem item (h : c.Alike c') (before after : List Content) :
    (many (before ++ c :: after)).Alike (many (before ++ c' :: after)) := by
  have hnodes (q : Chain) :
      bared (nodesOfItems q 0 (before ++ c :: after)) =
        bared (nodesOfItems q 0 (before ++ c' :: after)) := by
    -- as many items are before the one as before the other, so the chains after it stay
    have hitem := h.nodes (q ++ [0 + before.length])
    unfold bared at hitem ⊢
    rw [nodesOfItems_append, nodesOfItems_append, List.map_append, List.map_append, hitem,
      List.map_append, List.map_append]
  refine ⟨fun state => ?_, hnodes, hnodes⟩
  rw [Content.render, Content.render, viewsOfList_append, viewsOfList_append, h.views state]

/-- Contents that are alike at a place are alike altogether. -/
theorem fill (h : c.Alike c') (way : Content.Path) : (way.fill c).Alike (way.fill c') := by
  induction way with
  | nil => exact h
  | cons f rest ih =>
    cases f with
    | children n => exact ih.children n
    | item before after => exact ih.item before after

/-- The same nodes at the same chains have the same table of callbacks. -/
theorem callbacks (h : c.Alike c') (state : State) :
    c.callbacks state "" = c'.callbacks state "" := by
  have hbared (d : Content) : d.registrations state "" =
      (bared (d.nodes [])).flatMap (Node.keyedCallbacks state) := by
    rw [registrations_root, bared, List.flatMap_map]
    rfl
  rw [Content.callbacks, Content.callbacks, hbared, hbared, h.nodes]

/-- An only child is the one item of a list of children. -/
theorem list_of_one (k n : Node) :
    (single { k with children := .many [.single n] }).Alike
      (single { k with children := .single n }) := by
  have hbelow (q : Chain) : (many [.single n]).nodesBelow q = (single n).nodesBelow q :=
    List.append_nil (n.nodes (q ++ [0]))
  have hnodes (q : Chain) : bared (Node.nodes q { k with children := .many [.single n] }) =
      bared (Node.nodes q { k with children := .single n }) := by
    rw [Node.nodes_eq, Node.nodes_eq]
    exact congrArg (fun below => (q, k.bare) :: bared below) (hbelow q)
  refine ⟨fun state => ?_, hnodes, fun q => hnodes (q ++ [0])⟩
  have hview : Node.view state { k with children := .many [.single n] } =
      Node.view state { k with children := .single n } := by
    rw [Node.view_eq, Node.view_eq]
    rfl
  exact congrArg Rendered.one hview

end Content.Alike

/-! ## The statement -/

/-- **How lists are nested is not seen.** A content in which every list is one of texts and nodes
shows the same as the content that it was made of, and if no name of an event holds a dot it has
the same callbacks in the same order. Keys may differ. They do not where a node somewhere in a
content has its only child as a list of one; the whole table is the same then. -/
theorem Content.nesting_unseen (c : Content) (state : State) :
    c.spliced.isPlain = true ∧ c.spliced.render state = c.render state ∧
    (c.DotFree → (c.spliced.callbacks state "").entries.map Prod.snd =
      (c.callbacks state "").entries.map Prod.snd) ∧
    ∀ (way : Content.Path) (k n : Node),
      (way.fill (.single { k with children := .many [.single n] })).render state =
        (way.fill (.single { k with children := .single n })).render state ∧
      (way.fill (.single { k with children := .many [.single n] })).callbacks state "" =
        (way.fill (.single { k with children := .single n })).callbacks state "" := by
  refine ⟨c.isPlain_spliced, c.render_spliced state, fun h => ?_, fun way k n => ?_⟩
  · -- no node is lost by splicing, and none is new
    have hspliced : c.spliced.DotFree := by
      rw [dotFree_iff, c.inOrder_spliced, ← dotFree_iff]
      exact h
    rw [values_callbacks hspliced, values_callbacks h, c.inOrder_spliced]
  · have halike := (Alike.list_of_one k n).fill way
    exact ⟨halike.render state, halike.callbacks state⟩

/-- Lists in lists, empty items, an unknown type, a void tag: all keys change, and nothing else. -/
theorem Content.nesting_unseen_tangled :
    tangled.DotFree ∧ tangled.isPlain = false ∧
    (tangled.spliced.callbacks ∅ "").keys =
      ["0.onClick", "0.1.onChange", "0.1.onBlur", "0.1.0.onClick", "2.onClick", "2.0.onChange",
        "2.0.onBlur", "2.0.0.onClick"] ∧
    (tangled.spliced.callbacks ∅ "").entries.map Prod.snd =
      (tangled.callbacks ∅ "").entries.map Prod.snd := by
  have hfree : tangled.DotFree := by decide +kernel
  obtain ⟨-, -, hcallbacks, -⟩ := nesting_unseen tangled ∅
  exact ⟨hfree, by decide +kernel, by decide +kernel, hcallbacks hfree⟩

end AssistantUI
