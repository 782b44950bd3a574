import AssistantUI.Proofs.Build.Envelope
import AssistantUI.Proofs.Definition.Places
import AssistantUI.Proofs.Render.InOrder
import AssistantUI.Proofs.Render.Origin

/-!
# What is wrong stays where it is

Whatever is put at a place of a definition, right or wrong, the rest is read, shown and called
back as if anything else stood there. Of the callbacks those outside the place are the same and in
the same order: the keys of the others start with its position, and no key outside does, unless a
name holds a dot. What is shown is the same around the place; the run of views that the item there
gives takes its part of one list of children, if that list is shown at all.

Both are said of places in a content first, step by step along the way to the place.
-/

namespace AssistantUI

/-! ## Keys under a position -/

/-- Does the key start with the position and a dot? -/
def Position.isUnder (p key : Position) : Bool := (p ++ ".").toList.isPrefixOf key.toList

namespace Position

/-- A key is under a position if its node is. -/
theorem isUnder_key {p q : Chain} {name : String} (hp : p ≠ []) (hname : '.' ∉ name.toList) :
    isUnder (ofChain p) (key q name) = p.isPrefixOf q := by
  rw [Bool.eq_iff_iff, isUnder, ofChain_append_dot hp, List.isPrefixOf_iff_prefix,
    List.isPrefixOf_iff_prefix]
  induction p generalizing q with
  | nil => exact absurd rfl hp
  | cons i p ih =>
    rw [toList_key_cons]
    cases q with
    | nil =>
      -- the name alone has no dot, which the position has
      have hnone : ¬(toString i).toList ++ '.' :: (key p "").toList <+: (key [] name).toList := by
        intro h
        have hkey : key [] name = name := String.intercalate_singleton
        rw [hkey] at h
        exact hname (h.subset (List.mem_append_right _ List.mem_cons_self))
      exact iff_of_false hnone (by simp)
    | cons j q =>
      rw [toList_key_cons, prefix_of_words (dot_not_mem_toString i) (dot_not_mem_toString j),
        List.cons_prefix_cons]
      refine and_congr ⟨fun h => toString_injective h, fun h => by rw [h]⟩ ?_
      by_cases hrest : p = []
      · subst hrest
        simp [key]
      · exact ih hrest

end Position

/-! ## Callbacks outside a place -/

/-- Of some nodes, those that are not at a place or below it. -/
def outside (p : Chain) (nodes : List (Chain × Node)) : List (Chain × Node) :=
  (nodes.filter fun e => !p.isPrefixOf e.1).map fun e => (e.1, e.2.bare)

theorem outside_append (p : Chain) (l m : List (Chain × Node)) :
    outside p (l ++ m) = outside p l ++ outside p m := by
  rw [outside, List.filter_append, List.map_append, outside, outside]

theorem outside_cons (p q : Chain) (n : Node) (l : List (Chain × Node)) :
    outside p ((q, n) :: l) = (if p.isPrefixOf q then [] else [(q, n.bare)]) ++ outside p l := by
  unfold outside
  rw [List.filter_cons]
  cases p.isPrefixOf q <;> rfl

theorem outside_eq_nil {p : Chain} {l : List (Chain × Node)} (h : ∀ e ∈ l, p <+: e.1) :
    outside p l = [] := by
  have hnone : l.filter (fun e => !p.isPrefixOf e.1) = [] := by
    refine List.filter_eq_nil_iff.mpr fun e he => ?_
    rw [List.isPrefixOf_iff_prefix.mpr (h e he)]
    exact Bool.false_ne_true
  rw [outside, hnone, List.map_nil]

theorem Content.nodesOfItems_append (q : Chain) (i : Nat) (before : List Content) (c : Content)
    (after : List Content) :
    nodesOfItems q i (before ++ c :: after) = nodesOfItems q i before ++
      (c.nodes (q ++ [i + before.length]) ++ nodesOfItems q (i + before.length + 1) after) := by
  induction before generalizing i with
  | nil =>
    rw [List.nil_append, nodesOfItems, nodesOfItems]
    rfl
  | cons b rest ih =>
    have hindex : i + 1 + rest.length = i + (b :: rest).length := by
      rw [List.length_cons]
      omega
    rw [List.cons_append, nodesOfItems, ih, hindex, nodesOfItems, List.append_assoc]

namespace Content.Path

theorem outside_node {p q : Chain} (n : Node) {c c' : Content}
    (h : outside p (c.nodesBelow q) = outside p (c'.nodesBelow q)) :
    outside p (Node.nodes q { n with children := c }) =
      outside p (Node.nodes q { n with children := c' }) := by
  rw [Node.nodes_eq, Node.nodes_eq, outside_cons, outside_cons, h]
  rfl

theorem outside_items {p q : Chain} (before after : List Content) {c c' : Content}
    (h : outside p (c.nodes (q ++ [before.length])) = outside p (c'.nodes (q ++ [before.length]))) :
    outside p (Content.nodesOfItems q 0 (before ++ c :: after)) =
      outside p (Content.nodesOfItems q 0 (before ++ c' :: after)) := by
  rw [Content.nodesOfItems_append, Content.nodesOfItems_append, Nat.zero_add]
  simp only [outside_append, h]

/-- The nodes outside a place do not depend on what is there, wherever the content stands. -/
theorem outside_nodes (way : Content.Path) (c c' : Content) :
    (∀ q, outside (q ++ way.chain) ((way.fill c).nodes q) =
      outside (q ++ way.chain) ((way.fill c').nodes q)) ∧
    ∀ q, outside (q ++ way.chainBelow) ((way.fill c).nodesBelow q) =
      outside (q ++ way.chainBelow) ((way.fill c').nodesBelow q) := by
  induction way with
  | nil =>
    -- all nodes of a content are at its place or below
    refine ⟨fun q => ?_, fun q => ?_⟩
    · have hall (c : Content) : ∀ e ∈ c.nodes q, q ++ [] <+: e.1 := by
        intro e he
        rw [List.append_nil]
        rcases (c.nodup_nodes q).2 e he with heq | ⟨k, hk⟩
        · exact heq ▸ List.prefix_rfl
        · exact hk.prefix
      exact (outside_eq_nil (hall c)).trans (outside_eq_nil (hall c')).symm
    · have hall (c : Content) : ∀ e ∈ c.nodesBelow q, q ++ [] <+: e.1 := by
        intro e he
        rw [List.append_nil]
        obtain ⟨k, hk⟩ := (c.nodup_nodesBelow q).2 e he
        exact hk.prefix
      exact (outside_eq_nil (hall c)).trans (outside_eq_nil (hall c')).symm
  | cons f rest ih =>
    obtain ⟨hat, hbelow⟩ := ih
    cases f with
    | children n =>
      refine ⟨fun q => outside_node n (hbelow q), fun q => ?_⟩
      have hchild := outside_node n (hbelow (q ++ [0]))
      rw [List.append_assoc] at hchild
      exact hchild
    | item before after =>
      have hitem (q : Chain) := outside_items before after (hat (q ++ [before.length]))
      simp only [List.append_assoc] at hitem
      exact ⟨hitem, hitem⟩

end Content.Path

/-- The callbacks whose keys are not under a place are those of the nodes outside of it. -/
theorem Content.filter_callbacks {c : Content} (h : c.DotFree) (state : State) {p : Chain}
    (hp : p ≠ []) :
    ((c.callbacks state "").entries.filter fun e => !Position.isUnder (Position.ofChain p) e.1) =
      (outside p (c.nodes [])).flatMap (Node.keyedCallbacks state) := by
  have hnode : ∀ e ∈ c.nodes [], (Node.keyedCallbacks state e).filter
      (fun k => !Position.isUnder (Position.ofChain p) k.1) =
        if p.isPrefixOf e.1 then [] else Node.keyedCallbacks state (e.1, e.2.bare) := by
    intro e he
    have hkeys : ∀ k ∈ Node.keyedCallbacks state e,
        Position.isUnder (Position.ofChain p) k.1 = p.isPrefixOf e.1 := by
      intro k hk
      obtain ⟨event, hevent, rfl⟩ := List.mem_map.mp hk
      exact Position.isUnder_key hp (h e he event.1 (List.mem_map_of_mem hevent))
    cases hunder : p.isPrefixOf e.1 with
    | true =>
      rw [if_pos rfl]
      exact List.filter_eq_nil_iff.mpr fun k hk => by simp [hkeys k hk, hunder]
    | false =>
      rw [if_neg Bool.false_ne_true]
      exact List.filter_eq_self.mpr fun k hk => by simp [hkeys k hk, hunder]
  rw [entries_callbacks h, List.filter_flatMap]
  generalize c.nodes [] = nodes at hnode
  induction nodes with
  | nil => rfl
  | cons e rest ih =>
    obtain ⟨hhead, htail⟩ := List.forall_mem_cons.mp hnode
    rw [List.flatMap_cons, hhead, ih htail, outside_cons, List.flatMap_append]
    cases p.isPrefixOf e.1 with
    | true => rfl
    | false => exact congrArg (· ++ _) (List.flatMap_singleton _ _).symm

/-! ## What is shown around a place -/

/-- The element of a node with no children, but with the line of text of an unknown type. -/
def Node.frame (state : State) (n : Node) : Element View :=
  Element.ofNode .text n.type (n.renderedProps state) [] n.events.keys

/-- The element with more behind its children. -/
def Element.append (el : Element View) (run : List View) : Element View :=
  { el with children := el.children ++ run }

/-- A way to a place among what is shown. -/
abbrev View.Path : Type := Way (Element View) View

/-- What is shown around a place if there is a run of views at it: in lists the run takes its part,
and an element has it among its children. -/
def View.Path.around : View.Path → List View → List View
  | [], run => run
  | .children el :: rest, run => [.element (el.append (around rest run))]
  | .item before after :: rest, run => before ++ around rest run ++ after

/-- What is shown for a step, if anything is. -/
def Content.seen (state : State) : Frame Node Content → Option (Frame (Element View) View)
  | .children n => if n.showsChildren then some (.children (n.frame state)) else none
  | .item before after =>
    some (.item (viewsOfList state before) (viewsOfList state after))

/-- What is shown on the way to a place, if the place is shown. -/
def Content.Path.seen (state : State) (way : Content.Path) : Option View.Path :=
  way.mapM (Content.seen state)

theorem Content.viewsOfList_append (state : State) (before : List Content) (c : Content)
    (after : List Content) :
    viewsOfList state (before ++ c :: after) =
      viewsOfList state before ++ c.views state ++ viewsOfList state after := by
  induction before with
  | nil => rfl
  | cons b rest ih =>
    rw [List.cons_append, viewsOfList, ih, viewsOfList, List.append_assoc, List.append_assoc,
      List.append_assoc]

theorem Node.view_children (state : State) (n : Node) (c : Content)
    (h : n.showsChildren = true) :
    Node.view state { n with children := c } =
      .element ((n.frame state).append (c.views state)) := by
  rw [Node.view_eq]
  unfold showsChildren at h
  unfold frame
  cases htag : Tag.ofName? n.type with
  | none =>
    rw [Element.ofNode_unknown htag, Element.ofNode_unknown htag]
    rfl
  | some tag =>
    rw [htag] at h
    have hvoid : tag.isVoid = false := Bool.not_eq_true' _ ▸ h
    rw [Element.ofNode_known htag, Element.ofNode_known htag, Element.known, Element.known, hvoid]
    rfl

theorem Node.view_children_of_void (state : State) (n : Node) (c c' : Content)
    (h : n.showsChildren = false) :
    Node.view state { n with children := c } = Node.view state { n with children := c' } := by
  rw [Node.view_eq, Node.view_eq]
  unfold showsChildren at h
  cases htag : Tag.ofName? n.type with
  | none =>
    rw [htag] at h
    cases h
  | some tag =>
    rw [htag] at h
    have hvoid : tag.isVoid = true := by simpa using h
    rw [Element.ofNode_known htag, Element.ofNode_known htag, Element.known, Element.known, hvoid]
    rfl

namespace Content.Path

theorem seen_cons (state : State) (f : Frame Node Content) (rest : Content.Path) :
    seen state (f :: rest) = (Content.seen state f).bind fun g =>
      (seen state rest).map (g :: ·) := by
  rw [seen, List.mapM_cons]
  cases Content.seen state f with
  | none => rfl
  | some g => cases hrest : rest.mapM (Content.seen state) <;> simp [seen, hrest]

/-- A content shows around a place what is seen on the way, and there what is shown for the item. -/
theorem views_fill {state : State} {way : Content.Path} {w : View.Path}
    (h : way.seen state = some w) (c : Content) :
    (way.fill c).views state = w.around (c.views state) := by
  induction way generalizing w with
  | nil =>
    obtain rfl := Option.some.inj h
    rfl
  | cons f rest ih =>
    rw [seen_cons] at h
    obtain ⟨g, hg, h⟩ := Option.bind_eq_some_iff.mp h
    obtain ⟨w, hw, rfl⟩ := Option.map_eq_some_iff.mp h
    have hrest := ih hw
    cases f with
    | children n =>
      rw [Content.seen] at hg
      cases hshows : n.showsChildren with
      | false =>
        rw [hshows] at hg
        cases hg
      | true =>
        rw [if_pos hshows] at hg
        obtain rfl := Option.some.inj hg
        have hview := Node.view_children state n (fill rest c) hshows
        rw [hrest] at hview
        exact congrArg (fun v => [v]) hview
    | item before after =>
      obtain rfl := Option.some.inj hg
      have hlist := Content.viewsOfList_append state before (fill rest c) after
      rw [hrest] at hlist
      exact hlist

/-- Where the way is not shown, nothing of the place is. -/
theorem views_fill_of_unseen {state : State} {way : Content.Path} (h : way.seen state = none)
    (c c' : Content) : (way.fill c).views state = (way.fill c').views state := by
  induction way with
  | nil => cases h
  | cons f rest ih =>
    rw [seen_cons] at h
    cases f with
    | children n =>
      cases hshows : n.showsChildren with
      | false =>
        exact congrArg (fun v => [v])
          (Node.view_children_of_void state n (fill rest c) (fill rest c') hshows)
      | true =>
        rw [Content.seen, if_pos hshows] at h
        have hrest := ih (Option.map_eq_none_iff.mp h)
        have hview := Node.view_children state n (fill rest c) hshows
        rw [hrest, ← Node.view_children state n (fill rest c') hshows] at hview
        exact congrArg (fun v => [v]) hview
    | item before after =>
      have hrest := ih (Option.map_eq_none_iff.mp h)
      have hlist := Content.viewsOfList_append state before (fill rest c) after
      rw [hrest, ← Content.viewsOfList_append] at hlist
      exact hlist

end Content.Path

/-! ## Mounts -/

/-- What is made of an item in a slot. -/
def Slot.content (slot : Slot) (x : Json) : Content := Content.salvage slot.depth x

/-- What is shown around the slot, if the list in which the item is is shown. -/
def Slot.surroundings (state : State) (slot : Slot) : Option View.Path :=
  if slot.isRead then (slot.path.salvage (-1)).seen state else none

/-- Two mounts of definitions with different items in a slot differ there at most. -/
structure Slot.Contains (slot : Slot) (x y : Json) (m m' : Mount) : Prop where
  /-- They have the same callbacks outside, in the same order. -/
  callbacks :
    (m.callbacks.entries.filter fun e => !Position.isUnder (Position.ofChain slot.chain) e.1) =
      m'.callbacks.entries.filter fun e => !Position.isUnder (Position.ofChain slot.chain) e.1
  /-- They show the same around the runs of views that the items give. -/
  shown : ∀ w, slot.surroundings m.store.values = some w →
    m.view.toList = w.around ((slot.content x).views m.store.values) ∧
      m'.view.toList = w.around ((slot.content y).views m.store.values)
  /-- They show the same altogether if nothing is shown of the slot. -/
  hidden : slot.surroundings m.store.values = none → m.view = m'.view

namespace Slot

variable {slot : Slot} {x y : Json} {root root' : Node} {issues issues' : List Issue}

/-- Both trees are the same around the slot, or they are the same because it lies too deep. -/
theorem trees_of_parse (hx : Definition.parse (slot.fill x) = .ok (some (.tree root), issues))
    (hy : Definition.parse (slot.fill y) = .ok (some (.tree root'), issues')) :
    if slot.isRead then
      Content.single root = (slot.path.salvage (-1)).fill (slot.content x) ∧
        Content.single root' = (slot.path.salvage (-1)).fill (slot.content y)
    else root = root' := by
  have hroot := slot.salvage_path hx
  have hroot' := slot.salvage_path hy
  split
  · next hread =>
    have hdepth : -1 + (slot.path.length : Int) ≤ maxDepth + 1 := of_decide_eq_true hread
    rw [hroot, hroot', Content.salvage_fill _ _ hdepth, Content.salvage_fill _ _ hdepth]
    exact ⟨rfl, rfl⟩
  · next hread =>
    have hdepth : ¬-1 + (slot.path.length : Int) ≤ maxDepth + 1 := fun h =>
      hread (decide_eq_true h)
    have hsame := Content.salvage_fill_of_deep slot.path (-1) (by omega) (by decide) x y
    exact Content.single.inj ((hroot.trans hsame).trans hroot'.symm)

/-- Where the trees are rendered in one state, they differ at the slot at most. -/
theorem contains_of_parse (hx : Definition.parse (slot.fill x) = .ok (some (.tree root), issues))
    (hy : Definition.parse (slot.fill y) = .ok (some (.tree root'), issues'))
    (hfree : (Content.single root).DotFree) (hfree' : (Content.single root').DotFree)
    {m m' : Mount} (hstate : m'.store.values = m.store.values)
    (hview : m.view = .one (root.view m.store.values))
    (hview' : m'.view = .one (root'.view m'.store.values))
    (hcallbacks : m.callbacks = (Content.single root).callbacks m.store.values "")
    (hcallbacks' : m'.callbacks = (Content.single root').callbacks m'.store.values "") :
    slot.Contains x y m m' := by
  have htrees := trees_of_parse hx hy
  have hshown (n : Node) : (Rendered.one (n.view m.store.values)).toList =
      (Content.single n).views m.store.values := rfl
  rw [hstate] at hview' hcallbacks'
  cases hread : slot.isRead with
  | false =>
    rw [hread] at htrees
    obtain rfl : root = root' := htrees
    refine ⟨by rw [hcallbacks, hcallbacks'], fun w hw => ?_, fun _ => by rw [hview, hview']⟩
    rw [surroundings, hread] at hw
    cases hw
  | true =>
    rw [hread] at htrees
    obtain ⟨htree, htree'⟩ : Content.single root = _ ∧ Content.single root' = _ := htrees
    have hchain : (slot.path.salvage (-1)).chain = slot.chain := (slot.path.chain_salvage _).1
    refine ⟨?_, fun w hw => ?_, fun hnone => ?_⟩
    · have houtside := (Content.Path.outside_nodes (slot.path.salvage (-1)) (slot.content x)
        (slot.content y)).1 []
      rw [List.nil_append, hchain, ← htree, ← htree'] at houtside
      rw [hcallbacks, hcallbacks', Content.filter_callbacks hfree _ slot.chain_ne_nil,
        Content.filter_callbacks hfree' _ slot.chain_ne_nil, houtside]
    · rw [surroundings, hread] at hw
      rw [hview, hview', hshown, hshown, htree, htree']
      exact ⟨Content.Path.views_fill hw _, Content.Path.views_fill hw _⟩
    · rw [surroundings, hread] at hnone
      have hsame := Content.Path.views_fill_of_unseen hnone (slot.content x) (slot.content y)
      rw [← htree, ← htree'] at hsame
      rw [hview, hview']
      exact congrArg Rendered.one (List.cons.inj hsame).1

/--
**A fault stays in its place.** Of two definitions that differ in one item of one list of children,
whatever it is, the mounts have the same callbacks outside the item and show the same around it,
in the beginning and after any changes of the state.
-/
theorem contains_mounts {σ τ : Type} (slot : Slot) (x y : Json)
    (hx : Definition.parse (slot.fill x) = .ok (some (.tree root), issues))
    (hy : Definition.parse (slot.fill y) = .ok (some (.tree root'), issues'))
    (hfree : (Content.single root).DotFree) (hfree' : (Content.single root').DotFree)
    (host : Session.Host σ) (s : Session σ) (host' : Session.Host τ) (s' : Session τ) :
    ∃ m m', Session.Mounts host s (.json (slot.fill x)) m ∧
      Session.Mounts host' s' (.json (slot.fill y)) m' ∧ slot.Contains x y m m' ∧
      ∀ changes, slot.Contains x y (m.merge changes) (m'.merge changes) := by
  refine ⟨_, _, Session.mount_of_ok host s rfl hx, Session.mount_of_ok host' s' rfl hy, ?_, ?_⟩
  · exact contains_of_parse hx hy hfree hfree' rfl rfl rfl rfl rfl
  · intro changes
    rw [Mount.merge_of_mounted rfl, Mount.merge_of_mounted rfl]
    exact contains_of_parse hx hy hfree hfree' rfl rfl rfl rfl rfl

/-- A button that does nothing. -/
def idleButton : Json :=
  .obj [("type", .str "button"), ("events", .obj [("onClick", .obj [])])]

/-- A slot in a list in the list of children of an unknown type, behind items of all kinds. -/
def tangled : Slot where
  envelope := ⟨[("renderType", .str treeMarker)], [], by decide⟩
  isTree := rfl
  root := ⟨[("type", .str "div")], [("events", .obj [("onClick", .obj [])])], by decide⟩
  way := [.item [.null, .str "a"] [idleButton],
    .children ⟨[("type", .str "widget")], [("props", .null)], by decide⟩,
    .item [.arr [.str "b", idleButton]] []]
  before := [.str "c", .null]
  after := [idleButton]

/-- A node whose type and events are no such things, and that has a list in its list. -/
def brokenItem : Json :=
  .obj [("type", .int 5), ("events", .obj [("onClick", .null)]),
    ("children", .arr [.bool true, .arr [.str "d", idleButton]])]

/-- Two buttons, in a list of their own. -/
def twoButtons : Json := .arr [idleButton, idleButton]

/-- A host that does nothing. -/
def idleHost : Session.Host Unit := ⟨fun _ => "m", none, fun _ _ _ _ => .done⟩

/-- It does not matter to the rest which of the two is there. -/
theorem contains_mounts_tangled :
    tangled.chain = [2, 1, 2] ∧ (tangled.surroundings ∅).isSome = true ∧
    ∃ m m', Session.Mounts idleHost (Session.new ()) (.json (tangled.fill brokenItem)) m ∧
      Session.Mounts idleHost (Session.new ()) (.json (tangled.fill twoButtons)) m' ∧
      tangled.Contains brokenItem twoButtons m m' := by
  have hx : Definition.parse (tangled.fill brokenItem) = .ok (some (.tree _), _) := rfl
  have hy : Definition.parse (tangled.fill twoButtons) = .ok (some (.tree _), _) := rfl
  obtain ⟨m, m', hm, hm', hcontains, -⟩ := contains_mounts tangled brokenItem twoButtons hx hy
    (by decide +kernel) (by decide +kernel) idleHost (Session.new ()) idleHost (Session.new ())
  exact ⟨rfl, rfl, m, m', hm, hm', hcontains⟩

end Slot

end AssistantUI
