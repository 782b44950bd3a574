import AssistantUI.Proofs.Render.Callbacks

/-!
# Which node an element is shown for

A host sees what is rendered and counts children there. The table of callbacks counts the
items of the definition. The two agree until an item shows nothing, a list is spliced into
the list around it, or an unknown type puts a line of text before its children.

To relate them, each view of a rendered list is traced to its source: the text it repeats,
or the node it is shown for together with that node's chain. Following indices among sources
then leads to the same place as following them among views (`Source.view_at?`), and where it
leads to a node, the chain found there is the one that the node's callbacks are kept under.
-/

namespace AssistantUI

theorem Node.view_eq (state : State) (n : Node) :
    n.view state = .element (Element.ofNode .text n.type (n.renderedProps state)
      (n.children.views state) n.events.keys) := by
  cases n
  rw [Node.view]

theorem Element.ofNode_known {type : String} {tag : Tag} (h : Tag.ofName? type = some tag)
    {β : Type} {text : String → β} {props : Dict String Json} {children : List β}
    {callbacks : List String} :
    ofNode text type props children callbacks = known tag props children callbacks := by
  simp only [ofNode, h]

theorem Element.ofNode_unknown {type : String} (h : Tag.ofName? type = none)
    {β : Type} {text : String → β} {props : Dict String Json} {children : List β}
    {callbacks : List String} :
    ofNode text type props children callbacks = unknown text type children := by
  simp only [ofNode, h]

/-- Does the element of the node show what its children show? A void tag does not. -/
def Node.showsChildren (n : Node) : Bool :=
  match Tag.ofName? n.type with
  | some tag => !tag.isVoid
  | none => true

/-- The view that a chain of indices into children leads to. -/
def View.at? (v : View) : List Nat → Option View
  | [] => some v
  | i :: rest =>
    match v with
    | .text _ => none
    | .element e => (e.children[i]?).bind fun child => View.at? child rest

/-- What a view is shown for. -/
inductive Source where
  /-- A text of the definition, or one that rendering adds. -/
  | text (s : String)
  /-- The node at a chain. -/
  | node (q : Chain) (n : Node)

namespace Source

/-- What is shown for it. -/
def view (state : State) : Source → View
  | text s => .text s
  | node _ n => n.view state

mutual

/-- The sources of what a content at a chain shows in the list around it. -/
def ofContent (q : Chain) (c : Content) : List Source :=
  match c with
  | .empty => []
  | .text s => [.text s]
  | .single n => [.node q n]
  | .many items => ofItems q 0 items

/-- The sources of what the items under a chain show, numbered from `i`. -/
def ofItems (q : Chain) (i : Nat) (cs : List Content) : List Source :=
  match cs with
  | [] => []
  | c :: rest => ofContent (q ++ [i]) c ++ ofItems q (i + 1) rest

end

/-- The sources of what the children of the node at a chain show. -/
def ofChildren (q : Chain) : Content → List Source
  | .empty => []
  | .text s => [.text s]
  | .single n => [.node (q ++ [0]) n]
  | .many items => ofItems q 0 items

/-- The sources of the children of an element: an unknown type has a line of text before what
its children show, and a void tag has none. -/
def children : Source → List Source
  | text _ => []
  | node q n =>
    match Tag.ofName? n.type with
    | some tag => if tag.isVoid then [] else ofChildren q n.children
    | none => .text ("Unknown component type: " ++ n.type) :: ofChildren q n.children

/-- The source that a chain of indices into children leads to. -/
def at? (s : Source) : List Nat → Option Source
  | [] => some s
  | i :: rest => (s.children[i]?).bind fun child => child.at? rest

/-! ## Sources follow views -/

mutual

theorem map_view_ofContent (state : State) (q : Chain) (c : Content) :
    (ofContent q c).map (view state) = c.views state := by
  match c with
  | .empty => rfl
  | .text s => rfl
  | .single n => rfl
  | .many items => exact map_view_ofItems state q 0 items

theorem map_view_ofItems (state : State) (q : Chain) (i : Nat) (cs : List Content) :
    (ofItems q i cs).map (view state) = Content.viewsOfList state cs := by
  match cs with
  | [] => rfl
  | c :: rest =>
    have hc := map_view_ofContent state (q ++ [i]) c
    have hrest := map_view_ofItems state q (i + 1) rest
    rw [ofItems, Content.viewsOfList, List.map_append, hc, hrest]

end

theorem map_view_ofChildren (state : State) (q : Chain) (c : Content) :
    (ofChildren q c).map (view state) = c.views state := by
  cases c with
  | many items => exact map_view_ofItems state q 0 items
  | _ => rfl

theorem children_known {q : Chain} {n : Node} {tag : Tag} (h : Tag.ofName? n.type = some tag) :
    (node q n).children = if tag.isVoid then [] else ofChildren q n.children := by
  simp only [children, h]

theorem children_unknown {q : Chain} {n : Node} (h : Tag.ofName? n.type = none) :
    (node q n).children =
      .text ("Unknown component type: " ++ n.type) :: ofChildren q n.children := by
  simp only [children, h]

/-- A node is shown as an element whose children are shown for the node's children. -/
theorem view_node (state : State) (q : Chain) (n : Node) :
    ∃ el, (node q n).view state = .element el ∧
      el.children = ((node q n).children).map (view state) := by
  have hbelow := map_view_ofChildren state q n.children
  rw [view, Node.view_eq]
  cases htag : Tag.ofName? n.type with
  | none =>
    refine ⟨_, congrArg View.element (Element.ofNode_unknown htag), ?_⟩
    rw [children_unknown htag, List.map_cons, hbelow]
    rfl
  | some tag =>
    refine ⟨_, congrArg View.element (Element.ofNode_known htag), ?_⟩
    rw [children_known htag, Element.known]
    split
    · rfl
    · exact hbelow.symm

/-- Following indices among views is following them among sources. -/
theorem view_at? (state : State) (s : Source) (p : List Nat) :
    (s.view state).at? p = (s.at? p).map (view state) := by
  induction p generalizing s with
  | nil => rfl
  | cons i rest ih =>
    cases s with
    | text t => rfl
    | node q n =>
      obtain ⟨el, hel, hchildren⟩ := view_node state q n
      rw [hel, View.at?, hchildren, List.getElem?_map, at?]
      cases (node q n).children[i]? with
      | none => rfl
      | some child => exact ih child

/-! ## Sources are nodes of the definition -/

/-- The nodes at and below a source. -/
def nodes : Source → List (Chain × Node)
  | text _ => []
  | node q n => n.nodes q

mutual

theorem nodes_subset_ofContent {q : Chain} {c : Content} {s : Source} (h : s ∈ ofContent q c) :
    ∀ e ∈ s.nodes, e ∈ c.nodes q := by
  match c with
  | .empty => exact absurd h List.not_mem_nil
  | .text t =>
    rw [List.mem_singleton.mp h]
    exact fun e he => absurd he List.not_mem_nil
  | .single n =>
    rw [List.mem_singleton.mp h]
    exact fun e he => he
  | .many items => exact nodes_subset_ofItems h

theorem nodes_subset_ofItems {q : Chain} {i : Nat} {cs : List Content} {s : Source}
    (h : s ∈ ofItems q i cs) : ∀ e ∈ s.nodes, e ∈ Content.nodesOfItems q i cs := by
  match cs with
  | [] => exact absurd h List.not_mem_nil
  | c :: rest =>
    intro e he
    rw [Content.nodesOfItems]
    rcases List.mem_append.mp h with h | h
    · exact List.mem_append_left _ (nodes_subset_ofContent h e he)
    · exact List.mem_append_right _ (nodes_subset_ofItems h e he)

end

theorem nodes_subset_ofChildren {q : Chain} {c : Content} {s : Source} (h : s ∈ ofChildren q c) :
    ∀ e ∈ s.nodes, e ∈ c.nodesBelow q := by
  cases c with
  | empty => exact absurd h List.not_mem_nil
  | text t =>
    rw [List.mem_singleton.mp h]
    exact fun e he => absurd he List.not_mem_nil
  | single n =>
    rw [List.mem_singleton.mp h]
    exact fun e he => he
  | many items => exact nodes_subset_ofItems h

theorem nodes_subset_children {s child : Source} (h : child ∈ s.children) :
    ∀ e ∈ child.nodes, e ∈ s.nodes := by
  intro e he
  cases s with
  | text t => exact absurd h List.not_mem_nil
  | node q n =>
    rw [nodes, Node.nodes_eq]
    refine List.mem_cons_of_mem _ ?_
    cases htag : Tag.ofName? n.type with
    | none =>
      -- the line of text is the one child that is shown for no node
      rw [children_unknown htag] at h
      rcases List.mem_cons.mp h with rfl | h
      · exact absurd he List.not_mem_nil
      · exact nodes_subset_ofChildren h e he
    | some tag =>
      rw [children_known htag] at h
      split at h
      · exact absurd h List.not_mem_nil
      · exact nodes_subset_ofChildren h e he

/-- Indices into children never lead out of the definition. -/
theorem nodes_subset_at? {s t : Source} {p : List Nat} (h : s.at? p = some t) :
    ∀ e ∈ t.nodes, e ∈ s.nodes := by
  induction p generalizing s with
  | nil =>
    rw [Option.some.inj h]
    exact fun e he => he
  | cons i rest ih =>
    obtain ⟨child, hchild, ht⟩ := Option.bind_eq_some_iff.mp h
    intro e he
    exact nodes_subset_children (List.mem_of_getElem? hchild) e (ih ht e he)

theorem mem_nodes_of_at? {s : Source} {p : List Nat} {q : Chain} {n : Node}
    (h : s.at? p = some (.node q n)) : (q, n) ∈ s.nodes := by
  refine nodes_subset_at? h (q, n) ?_
  rw [nodes, Node.nodes_eq]
  exact List.mem_cons_self

end Source

/-! ## Trees that are shown item by item -/

/-- Does the content show exactly one view, wherever it stands? -/
def Content.isOne : Content → Bool
  | .text _ => true
  | .single _ => true
  | _ => false

/-- Is every child of the node shown under the index that it has in the definition? -/
def Node.keepsCount (n : Node) : Bool :=
  (Tag.ofName? n.type).isSome &&
    match n.children with
    | .many items => items.all Content.isOne
    | _ => true

/-- Every node of the tree has its children shown under their own indices. -/
def Node.Level (root : Node) : Prop := ∀ e ∈ root.nodes [], e.2.keepsCount = true

namespace Source

theorem chain_of_getElem?_ofItems {q : Chain} {i j : Nat} {cs : List Content} {r : Chain}
    {m : Node} (hone : cs.all Content.isOne = true) (h : (ofItems q i cs)[j]? = some (.node r m)) :
    r = q ++ [i + j] := by
  induction cs generalizing i j with
  | nil => exact absurd h (by simp [ofItems])
  | cons c rest ih =>
    rw [List.all_cons, Bool.and_eq_true] at hone
    -- the one view that `c` shows takes up index `i`
    have hhead : ∃ s, ofContent (q ++ [i]) c = [s] ∧ (s = .node r m → r = q ++ [i]) := by
      cases c with
      | empty => exact absurd hone.1 Bool.false_ne_true
      | many items => exact absurd hone.1 Bool.false_ne_true
      | text t => exact ⟨.text t, rfl, fun he => by cases he⟩
      | single n => exact ⟨.node (q ++ [i]) n, rfl, fun he => by cases he; rfl⟩
    obtain ⟨s, hs, hr⟩ := hhead
    rw [ofItems, hs, List.singleton_append] at h
    cases j with
    | zero => exact hr (Option.some.inj h)
    | succ j =>
      have hj := ih hone.2 (i := i + 1) h
      rw [hj]
      congr 2
      omega

theorem chain_of_getElem?_children {q : Chain} {n : Node} {i : Nat} {r : Chain} {m : Node}
    (hkeeps : n.keepsCount = true) (h : (node q n).children[i]? = some (.node r m)) :
    r = q ++ [i] := by
  obtain ⟨hknown, hitems⟩ := Bool.and_eq_true_iff.mp hkeeps
  obtain ⟨tag, htag⟩ := Option.isSome_iff_exists.mp hknown
  rw [children_known htag] at h
  split at h
  · exact absurd h (by simp)
  · cases hc : n.children with
    | empty =>
      rw [hc] at h
      exact absurd h (by simp [ofChildren])
    | text t =>
      rw [hc, ofChildren] at h
      cases i with
      | zero => cases h
      | succ i => exact absurd h (by simp)
    | single k =>
      rw [hc, ofChildren] at h
      cases i with
      | zero => cases h; rfl
      | succ i => exact absurd h (by simp)
    | many items =>
      rw [hc] at h hitems
      have hr := chain_of_getElem?_ofItems hitems h
      rwa [Nat.zero_add] at hr

theorem eq_of_text_at? {t : String} {p : List Nat} {s : Source} (h : (text t).at? p = some s) :
    s = text t := by
  cases p with
  | nil => exact (Option.some.inj h).symm
  | cons i rest => exact absurd h (by simp [at?, children])

/-- Where nothing shifts, indices into children are the indices of the definition. -/
theorem chain_of_at? {q : Chain} {n : Node} {p : List Nat} {r : Chain} {m : Node}
    (hkeeps : ∀ e ∈ n.nodes q, e.2.keepsCount = true) (h : (node q n).at? p = some (.node r m)) :
    r = q ++ p := by
  induction p generalizing q n with
  | nil =>
    cases Option.some.inj h
    exact (List.append_nil _).symm
  | cons i rest ih =>
    obtain ⟨child, hchild, hrest⟩ := Option.bind_eq_some_iff.mp h
    -- no node is found below a text
    cases child with
    | text t => exact absurd (eq_of_text_at? hrest) (by simp)
    | node q' k =>
      have hroot : n.keepsCount = true := by
        refine hkeeps (q, n) ?_
        rw [Node.nodes_eq]
        exact List.mem_cons_self
      have hq' := chain_of_getElem?_children hroot hchild
      have hbelow := nodes_subset_children (List.mem_of_getElem? hchild)
      rw [ih (fun e he => hkeeps e (hbelow e he)) hrest, hq', List.append_assoc,
        List.singleton_append]

end Source

/-! ## Callbacks of what is shown -/

theorem mem_sortNames {name : String} {names : List String} :
    name ∈ sortNames names ↔ name ∈ names := List.mem_mergeSort

/-- An element that has callbacks is shown for a node of a known type. -/
theorem Node.of_mem_eval {state : State} {n : Node} {el : Element View} {name : String}
    (hview : n.view state = .element el) (h : name ∈ el.eval) :
    name ∈ n.events.keys ∧ el.tag.name = n.type ∧ el.props = n.renderedProps state := by
  rw [Node.view_eq] at hview
  have hel := View.element.inj hview
  cases htag : Tag.ofName? n.type with
  | none =>
    rw [Element.ofNode_unknown htag] at hel
    rw [← hel] at h
    exact absurd h List.not_mem_nil
  | some tag =>
    rw [Element.ofNode_known htag] at hel
    rw [← hel] at h ⊢
    exact ⟨mem_sortNames.mp h, Tag.name_of_ofName? htag, rfl⟩

/-- **The callbacks of an element are under the chain of the node that it is shown for.** The
chain `p` that leads to the element spells the same keys if and only if it is that chain,
as it always is where no item shows nothing, is a list itself, or has an unknown type. -/
theorem Node.callback_of_shown (root : Node) (h : (Content.single root).DotFree) (state : State)
    (p : List Nat) (el : Element View) (hel : (root.view state).at? p = some (.element el))
    (name : String) (hname : name ∈ el.eval) :
    ∃ q n d, (Source.node [] root).at? p = some (.node q n) ∧
      (q, n) ∈ root.nodes [] ∧ n.view state = .element el ∧ (name, d) ∈ n.events.entries ∧
      ((Content.single root).callbacks state "").get? (Position.key q name) =
        some ⟨.described d, name, el.tag.name, el.props⟩ ∧
      (Position.key p name = Position.key q name ↔ p = q) ∧ (root.Level → p = q) := by
  have hsource := Source.view_at? state (.node [] root) p
  rw [Source.view, hel] at hsource
  obtain ⟨s, hs, hview⟩ := Option.map_eq_some_iff.mp hsource.symm
  cases s with
  | text t => cases hview
  | node q n =>
    have hmem : (q, n) ∈ (Content.single root).nodes [] := Source.mem_nodes_of_at? hs
    obtain ⟨hkey, htag, hprops⟩ := Node.of_mem_eval hview hname
    obtain ⟨event, hevent, rfl⟩ := List.mem_map.mp hkey
    have hdot : '.' ∉ event.1.toList := h (q, n) hmem event.1 hkey
    refine ⟨q, n, event.2, hs, hmem, hview, hevent, ?_, ?_, ?_⟩
    · rw [htag, hprops]
      exact Content.get?_callbacks h state hmem hevent
    · refine ⟨fun heq => (Position.key_injective hdot hdot heq).1, fun heq => by rw [heq]⟩
    · intro hlevel
      exact (Source.chain_of_at? hlevel hs).symm

/-- A box of an unknown type around a button that comes after an empty item. -/
def Node.shifted : Node :=
  let button : Node := ⟨"button", ∅, .text "go", Dict.ofList [("onClick", .inert)], ∅⟩
  ⟨"widget", ∅, .many [.empty, .many [.text "a", .single button]], ∅, ∅⟩

theorem Node.callback_of_shown_shifted :
    (Content.single shifted).DotFree ∧
    ∃ el, (shifted.view ∅).at? [2] = some (.element el) ∧ "onClick" ∈ el.eval ∧
      ∃ d, ((Content.single shifted).callbacks ∅ "").get? "1.1.onClick" =
        some ⟨.described d, "onClick", el.tag.name, el.props⟩ := by
  have hfree : (Content.single shifted).DotFree := by decide +kernel
  refine ⟨hfree, _, rfl, by decide +kernel, ?_⟩
  obtain ⟨q, n, d, hsource, -, -, -, hfound, -⟩ :=
    callback_of_shown shifted hfree ∅ [2] _ rfl "onClick" (by decide +kernel)
  cases hsource
  exact ⟨d, hfound⟩

/-- A box with an event whose name spells the key of an event of its only child. -/
def Node.dotted : Node :=
  let button : Node := ⟨"button", ∅, .empty, Dict.ofList [("onClick", .inert)], ∅⟩
  ⟨"div", ∅, .single button, Dict.ofList [("0.onClick", .inert)], ∅⟩

/-- The chain that leads to an element need not spell a key, and where a name holds a dot the
key need not be the element's own. -/
theorem Node.not_callback_at_shown_chain :
    (∃ el, (shifted.view ∅).at? [2] = some (.element el) ∧ "onClick" ∈ el.eval ∧
      (((Content.single shifted).callbacks ∅ "").get? (Position.key [2] "onClick")).isNone) ∧
    ∃ el, (dotted.view ∅).at? [] = some (.element el) ∧ "0.onClick" ∈ el.eval ∧
      (((Content.single dotted).callbacks ∅ "").get? (Position.key [] "0.onClick")).map
        (fun c => (c.event, c.tag)) = some ("onClick", "button") := by
  refine ⟨⟨_, rfl, ?_, ?_⟩, _, rfl, ?_, ?_⟩
  · decide +kernel
  · decide +kernel
  · decide +kernel
  · decide +kernel

end AssistantUI
