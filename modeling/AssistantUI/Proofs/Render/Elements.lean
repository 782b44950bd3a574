import AssistantUI.Proofs.Render.Origin

/-!
# Which nodes are shown

An element is shown for each node, unless the node lies below one whose tag is void: such a tag
drops its children, and with them all that is below. So the elements that a platform comes to,
each before those in it, are the elements of the nodes that nothing hides, in the order of the
definition (`elementsOfList_views`). Texts do not matter to that, nor how lists are nested.

What is below a node is told by its chain, since chains of nodes below lead through the node's own.
-/

namespace AssistantUI

/-! ## The elements of a view -/

mutual

/-- The elements of a view, each before those in it. -/
def View.elements (v : View) : List (Element View) :=
  match v with
  | .text _ => []
  | .element e => View.elementsOf e

/-- An element and the elements in it. -/
def View.elementsOf (e : Element View) : List (Element View) :=
  match e with
  | ⟨tag, props, children, eval⟩ => ⟨tag, props, children, eval⟩ :: View.elementsOfList children

/-- The elements of some views, one after the other. -/
def View.elementsOfList (vs : List View) : List (Element View) :=
  match vs with
  | [] => []
  | v :: rest => View.elements v ++ View.elementsOfList rest

end

namespace View

theorem elements_element (e : Element View) :
    (element e).elements = e :: elementsOfList e.children := by
  cases e
  rw [elements, elementsOf]

theorem elementsOfList_append (vs ws : List View) :
    elementsOfList (vs ++ ws) = elementsOfList vs ++ elementsOfList ws := by
  induction vs with
  | nil => rfl
  | cons v rest ih => rw [List.cons_append, elementsOfList, ih, elementsOfList, List.append_assoc]

theorem elementsOfList_singleton (v : View) : elementsOfList [v] = v.elements :=
  List.append_nil _

end View

/-! ## Nodes that nothing hides -/

/-- Is a place below one of the nodes, whose element drops what its children show? -/
def hides (nodes : List (Chain × Node)) (q : Chain) : Bool :=
  nodes.any fun e => !e.2.showsChildren && (e.1.isPrefixOf q && e.1 != q)

/-- Of some nodes, those that none of them hides. -/
def unhidden (nodes : List (Chain × Node)) : List (Chain × Node) :=
  nodes.filter fun e => !hides nodes e.1

theorem hides_eq_true {nodes : List (Chain × Node)} {q : Chain} :
    hides nodes q = true ↔ ∃ e ∈ nodes, e.2.showsChildren = false ∧ e.1 <+: q ∧ e.1 ≠ q := by
  simp [hides, List.isPrefixOf_iff_prefix]

theorem hides_append (l m : List (Chain × Node)) (q : Chain) :
    hides (l ++ m) q = (hides l q || hides m q) := List.any_append

theorem hides_eq_false_of_not_prefix {nodes : List (Chain × Node)} {q : Chain}
    (h : ∀ e ∈ nodes, ¬e.1 <+: q) : hides nodes q = false := by
  rw [← Bool.not_eq_true, hides_eq_true]
  rintro ⟨e, he, -, hstart, -⟩
  exact h e he hstart

/-- Nodes of different items do not hide each other. -/
theorem unhidden_append {l m : List (Chain × Node)}
    (h : ∀ e ∈ l, ∀ f ∈ m, ¬e.1 <+: f.1 ∧ ¬f.1 <+: e.1) :
    unhidden (l ++ m) = unhidden l ++ unhidden m := by
  have hleft : ∀ e ∈ l, hides (l ++ m) e.1 = hides l e.1 := by
    intro e he
    rw [hides_append, hides_eq_false_of_not_prefix fun f hf => (h e he f hf).2, Bool.or_false]
  have hright : ∀ f ∈ m, hides (l ++ m) f.1 = hides m f.1 := by
    intro f hf
    rw [hides_append, hides_eq_false_of_not_prefix fun e he => (h e he f hf).1, Bool.false_or]
  rw [unhidden, List.filter_append, unhidden, unhidden,
    List.filter_congr fun e he => congrArg not (hleft e he),
    List.filter_congr fun f hf => congrArg not (hright f hf)]

/-- A node hides all that is below it or nothing. -/
theorem unhidden_cons {q : Chain} {n : Node} {below : List (Chain × Node)}
    (h : ∀ e ∈ below, ∃ k, Chain.Through q k e.1) :
    unhidden ((q, n) :: below) = (q, n) :: if n.showsChildren then unhidden below else [] := by
  have hroot : hides ((q, n) :: below) q = false := by
    rw [← Bool.not_eq_true, hides_eq_true]
    rintro ⟨e, he, -, hstart, hne⟩
    rcases List.mem_cons.mp he with rfl | he
    · exact hne rfl
    · obtain ⟨k, hk⟩ := h e he
      exact hk.ne (hstart.eq_of_length_le hk.prefix.length_le)
  have hbelow : ∀ e ∈ below, hides ((q, n) :: below) e.1 =
      (!n.showsChildren || hides below e.1) := by
    intro e he
    obtain ⟨k, hk⟩ := h e he
    have hstart : q.isPrefixOf e.1 = true := List.isPrefixOf_iff_prefix.mpr hk.prefix
    have hne : (q != e.1) = true := bne_iff_ne.mpr hk.ne.symm
    rw [hides, List.any_cons, ← hides, hstart, hne, Bool.and_true, Bool.and_true]
  rw [unhidden, List.filter_cons, hroot]
  refine congrArg ((q, n) :: ·) ?_
  cases hshows : n.showsChildren with
  | false =>
    refine List.filter_eq_nil_iff.mpr fun e he => ?_
    rw [hbelow e he, hshows]
    exact Bool.false_ne_true
  | true =>
    refine List.filter_congr fun e he => ?_
    rw [hbelow e he, hshows, Bool.not_true, Bool.false_or]

/-! ## The elements of a definition -/

/-- The element that is shown for a node. -/
def Node.element (state : State) (n : Node) : Element View :=
  Element.ofNode .text n.type (n.renderedProps state) (n.children.views state) n.events.keys

theorem Node.element_known {n : Node} {tag : Tag} (h : Tag.ofName? n.type = some tag)
    (state : State) : n.element state = Element.known tag (n.renderedProps state)
      (n.children.views state) n.events.keys := Element.ofNode_known h

theorem Node.element_unknown {n : Node} (h : Tag.ofName? n.type = none) (state : State) :
    n.element state = Element.unknown .text n.type (n.children.views state) :=
  Element.ofNode_unknown h

theorem Node.elements_view (state : State) (n : Node) :
    (n.view state).elements = n.element state ::
      if n.showsChildren then View.elementsOfList (n.children.views state) else [] := by
  rw [Node.view_eq, View.elements_element, ← element, showsChildren]
  cases htag : Tag.ofName? n.type with
  | none =>
    rw [element_unknown htag]
    rfl
  | some tag =>
    rw [element_known htag, Element.known]
    by_cases hvoid : tag.isVoid = true <;> simp [hvoid, View.elementsOfList]

/-- The elements of the nodes that nothing hides. -/
def shownElements (state : State) (nodes : List (Chain × Node)) : List (Element View) :=
  (unhidden nodes).map fun e => e.2.element state

mutual

theorem Node.elements_nodes (state : State) (n : Node) (q : Chain) :
    (n.view state).elements = shownElements state (n.nodes q) := by
  match n with
  | ⟨type, props, children, events, bindings⟩ =>
    have hbelow := Content.elements_nodesBelow state children q
    rw [Node.elements_view, hbelow, Node.nodes_eq, shownElements, shownElements,
      unhidden_cons (Content.nodup_nodesBelow children q).2, List.map_cons]
    refine congrArg (_ :: ·) ?_
    split <;> rfl

theorem Content.elements_nodesBelow (state : State) (c : Content) (q : Chain) :
    View.elementsOfList (c.views state) = shownElements state (c.nodesBelow q) := by
  match c with
  | .empty | .text _ => rfl
  | .single n =>
    have hview := View.elementsOfList_singleton (n.view state)
    exact hview.trans (Node.elements_nodes state n (q ++ [0]))
  | .many items => exact Content.elements_nodesOfItems state items q 0

theorem Content.elements_nodes (state : State) (c : Content) (q : Chain) :
    View.elementsOfList (c.views state) = shownElements state (c.nodes q) := by
  match c with
  | .empty | .text _ => rfl
  | .single n =>
    have hview := View.elementsOfList_singleton (n.view state)
    exact hview.trans (Node.elements_nodes state n q)
  | .many items => exact Content.elements_nodesOfItems state items q 0

theorem Content.elements_nodesOfItems (state : State) (cs : List Content) (q : Chain) (i : Nat) :
    View.elementsOfList (Content.viewsOfList state cs) =
      shownElements state (Content.nodesOfItems q i cs) := by
  match cs with
  | [] => rfl
  | c :: rest =>
    have hc := Content.elements_nodes state c (q ++ [i])
    have hrest := Content.elements_nodesOfItems state rest q (i + 1)
    -- the nodes of `c` lie under item `i`, those of `rest` under later items
    have hapart : ∀ e ∈ c.nodes (q ++ [i]), ∀ f ∈ Content.nodesOfItems q (i + 1) rest,
        ¬e.1 <+: f.1 ∧ ¬f.1 <+: e.1 := by
      intro e he f hf
      have hi : Chain.Through q i e.1 := ((Content.nodup_nodes c (q ++ [i])).2 e he).through
      obtain ⟨k, hik, hk⟩ := (Content.nodup_nodesOfItems rest q (i + 1)).2 f hf
      exact ⟨hi.not_prefix hk (by omega), hk.not_prefix hi (by omega)⟩
    rw [Content.viewsOfList, View.elementsOfList_append, hc, hrest, Content.nodesOfItems,
      shownElements, shownElements, shownElements, unhidden_append hapart, List.map_append]

end

/-! ## The props of an element -/

/-- **What an element has under a name**: a placeholder for an event of the node, else what the
state holds for the key that is bound, null if it is unset, and else what the node says itself. -/
theorem Node.get?_renderedProps (state : State) (n : Node) (k : String) :
    (n.renderedProps state).get? k =
      if k ∈ n.events.keys then some callbackPlaceholder
      else ((n.bindings.get? k).map (State.value state)).or (n.props.get? k) := by
  have hbound : ((n.resolvedProps state).get? k) =
      ((n.bindings.get? k).map (State.value state)).or (n.props.get? k) := by
    have hkeys : ((n.bindings.entries.map fun e => (e.1, State.value state e.2)).map
        Prod.fst).Nodup := by
      rw [List.map_map]
      exact n.bindings.keys_nodup
    rw [resolvedProps, Dict.get?_insertList, Dict.find_reverse_of_nodup hkeys, ← Dict.get?_map]
    rfl
  have hevents : ((n.events.keys.map fun name => (name, callbackPlaceholder)).map
      Prod.fst).Nodup := by
    rw [List.map_map]
    exact (List.map_id _).symm ▸ n.events.keys_nodup
  rw [renderedProps, Dict.get?_insertList, Dict.find_reverse_of_nodup hevents, Dict.find_map_same,
    hbound]
  split <;> rfl

/-- Names that differ are sorted by their characters, none twice. -/
theorem pairwise_sortNames {names : List String} (h : names.Nodup) :
    (sortNames names).Pairwise (· < ·) := by
  have hsorted : (sortNames names).Pairwise fun a b => decide (a ≤ b) = true := by
    refine List.pairwise_mergeSort (fun a b c hab hbc => ?_) (fun a b => ?_) names
    · simp only [decide_eq_true_eq] at hab hbc ⊢
      exact String.le_trans hab hbc
    · simpa using String.le_total a b
  have hnodup : (sortNames names).Nodup := (List.mergeSort_perm names _).nodup_iff.mpr h
  exact hsorted.imp₂ (fun a b hab hne => Std.lt_of_le_of_ne (of_decide_eq_true hab) hne) hnodup

/-! ## Sound elements -/

/-- An element that a platform can make sense of, whatever its children are: a void tag has none,
and the names that are listed are sorted and have placeholders. -/
structure Element.Sound {β : Type} (e : Element β) : Prop where
  void : e.tag.isVoid = true → e.children = []
  sorted : e.eval.Pairwise (· < ·)
  placeholders : ∀ name ∈ e.eval, e.props.get? name = some callbackPlaceholder

theorem Element.sound_of_eval_nil {β : Type} {tag : Tag} {props : Dict String Json}
    {children : List β} (h : tag.isVoid = false) : Sound ⟨tag, props, children, []⟩ where
  void := fun hvoid => absurd hvoid (h ▸ Bool.false_ne_true)
  sorted := .nil
  placeholders := fun _ hname => absurd hname List.not_mem_nil

/-- The element of a node is sound, whatever type, events and bindings the node has. -/
theorem Node.sound_element (n : Node) (state : State) : (n.element state).Sound := by
  cases htag : Tag.ofName? n.type with
  | none =>
    rw [element_unknown htag]
    exact Element.sound_of_eval_nil rfl
  | some tag =>
    rw [element_known htag]
    refine ⟨fun hvoid => if_pos hvoid, pairwise_sortNames n.events.keys_nodup, fun name hname => ?_⟩
    exact (n.get?_renderedProps state name).trans (if_pos (mem_sortNames.mp hname))

end AssistantUI
