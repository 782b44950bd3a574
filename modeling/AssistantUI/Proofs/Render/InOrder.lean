import AssistantUI.Proofs.Render.Callbacks

/-!
# The nodes of a definition, each by itself

What a node adds to a table of callbacks, which keys of the state it shows and what is wrong with
it depend on the node alone, and not on what is below it or on where it stands. Here the nodes are
listed in pre-order without their children and without their chains (`Content.inOrder`).
-/

namespace AssistantUI

/-! ## Nodes in pre-order -/

/-- The node by itself, which is all that its callbacks are made of. -/
def Node.bare (n : Node) : Node := { n with children := .empty }

mutual

/-- The node and the nodes below it, parents before their children, each by itself. -/
def Node.inOrder (n : Node) : List Node :=
  match n with
  | ⟨type, props, children, events, bindings⟩ =>
    ⟨type, props, .empty, events, bindings⟩ :: Content.inOrder children

/-- The nodes of a content, each by itself. -/
def Content.inOrder (c : Content) : List Node :=
  match c with
  | .empty => []
  | .text _ => []
  | .single n => Node.inOrder n
  | .many items => Content.inOrderOfItems items

/-- The nodes of the contents of a list, each by itself. -/
def Content.inOrderOfItems (cs : List Content) : List Node :=
  match cs with
  | [] => []
  | c :: rest => Content.inOrder c ++ Content.inOrderOfItems rest

end

theorem Content.inOrderOfItems_eq (cs : List Content) :
    inOrderOfItems cs = cs.flatMap inOrder := by
  induction cs with
  | nil => rfl
  | cons c rest ih => rw [inOrderOfItems, List.flatMap_cons, ih]

mutual

theorem Node.map_bare_nodes (n : Node) (q : Chain) :
    (n.nodes q).map (fun e => e.2.bare) = n.inOrder := by
  match n with
  | ⟨type, props, children, events, bindings⟩ =>
    rw [Node.nodes, List.map_cons, Content.map_bare_nodesBelow children q, Node.inOrder]
    rfl

theorem Content.map_bare_nodesBelow (c : Content) (q : Chain) :
    (c.nodesBelow q).map (fun e => e.2.bare) = c.inOrder := by
  match c with
  | .empty | .text _ => rfl
  | .single n => exact Node.map_bare_nodes n (q ++ [0])
  | .many items => exact Content.map_bare_nodesOfItems items q 0

theorem Content.map_bare_nodes (c : Content) (q : Chain) :
    (c.nodes q).map (fun e => e.2.bare) = c.inOrder := by
  match c with
  | .empty | .text _ => rfl
  | .single n => exact Node.map_bare_nodes n q
  | .many items => exact Content.map_bare_nodesOfItems items q 0

theorem Content.map_bare_nodesOfItems (cs : List Content) (q : Chain) (i : Nat) :
    (Content.nodesOfItems q i cs).map (fun e => e.2.bare) = Content.inOrderOfItems cs := by
  match cs with
  | [] => rfl
  | c :: rest =>
    rw [Content.nodesOfItems, List.map_append, Content.map_bare_nodes c,
      Content.map_bare_nodesOfItems rest, Content.inOrderOfItems]

end

/-- The callbacks of a node, without the keys that they are kept under. -/
def Node.ownCallbacks (state : State) (n : Node) : List Callback :=
  n.events.entries.map (n.callback state)

theorem Content.dotFree_iff (c : Content) :
    c.DotFree ↔ ∀ n ∈ c.inOrder, ∀ name ∈ n.events.keys, '.' ∉ name.toList := by
  rw [← c.map_bare_nodes [], List.forall_mem_map]
  rfl

/-- The callbacks of a content in the order of the table are those of its nodes in pre-order. -/
theorem Content.values_callbacks {c : Content} (h : c.DotFree) (state : State) :
    (c.callbacks state "").entries.map Prod.snd = c.inOrder.flatMap (Node.ownCallbacks state) := by
  rw [entries_callbacks h, List.map_flatMap, ← c.map_bare_nodes [], List.flatMap_map]
  refine congrArg (List.flatMap · _) (funext fun e => ?_)
  rw [Node.keyedCallbacks, List.map_map]
  rfl

end AssistantUI
