import AssistantUI.Proofs.Render.Chain
import AssistantUI.Render.Tree

/-!
# The nodes of a definition, each with its chain

The walk through a tree knows positions only as texts. Here the nodes are listed with the
chains of indices that those texts stand for, in the same order: a node before whatever lies
below it, and items one after another. An only child counts as item 0 of its parent, a list
that is an item of a list adds its own indices, and items that show nothing are counted.

No two nodes have the same chain (`nodup_nodes`).
-/

namespace AssistantUI

mutual

/-- The nodes of a tree whose root stands at a chain, in pre-order. -/
def Node.nodes (q : Chain) (n : Node) : List (Chain × Node) :=
  match n with
  | ⟨type, props, children, events, bindings⟩ =>
    (q, ⟨type, props, children, events, bindings⟩) :: Content.nodesBelow q children

/-- The nodes of the children of the node at a chain. An only child is its item 0. -/
def Content.nodesBelow (q : Chain) (c : Content) : List (Chain × Node) :=
  match c with
  | .empty => []
  | .text _ => []
  | .single n => Node.nodes (q ++ [0]) n
  | .many items => Content.nodesOfItems q 0 items

/-- The nodes of a content that stands at a chain itself. -/
def Content.nodes (q : Chain) (c : Content) : List (Chain × Node) :=
  match c with
  | .empty => []
  | .text _ => []
  | .single n => Node.nodes q n
  | .many items => Content.nodesOfItems q 0 items

/-- The nodes of the items under a chain, numbered from `i`. -/
def Content.nodesOfItems (q : Chain) (i : Nat) (cs : List Content) : List (Chain × Node) :=
  match cs with
  | [] => []
  | c :: rest => Content.nodes (q ++ [i]) c ++ Content.nodesOfItems q (i + 1) rest

end

theorem Node.nodes_eq (q : Chain) (n : Node) :
    n.nodes q = (q, n) :: n.children.nodesBelow q := by
  cases n
  rw [Node.nodes]

/-! ## The walk visits them -/

/-- The node that a step of the walk comes to, if it does not leave one. -/
def Visit.entered : Visit → Option (Position × Node)
  | enter pos n => some (pos, n)
  | leave .. => none

/-- A node with its chain, as the walk knows it. -/
def placed (e : Chain × Node) : Position × Node := (Position.ofChain e.1, e.2)

mutual

theorem Node.entered_walk (n : Node) (q : Chain) :
    (n.walk (Position.ofChain q)).filterMap Visit.entered = (n.nodes q).map placed := by
  match n with
  | ⟨type, props, children, events, bindings⟩ =>
    have hbelow := Content.entered_walkChildren children q
    -- the step that leaves the node comes to none
    rw [Node.walk, Node.nodes, List.map_cons, ← hbelow]
    simp [Visit.entered, placed]

theorem Content.entered_walkChildren (c : Content) (q : Chain) :
    (c.walkChildren (Position.ofChain q)).filterMap Visit.entered =
      (c.nodesBelow q).map placed := by
  match c with
  | .empty => rfl
  | .text _ => rfl
  | .single n =>
    rw [Content.walkChildren, Position.item_ofChain]
    exact Node.entered_walk n (q ++ [0])
  | .many items => exact Content.entered_walkItems items q 0

theorem Content.entered_walk (c : Content) (q : Chain) :
    (c.walk (Position.ofChain q)).filterMap Visit.entered = (c.nodes q).map placed := by
  match c with
  | .empty => rfl
  | .text _ => rfl
  | .single n => exact Node.entered_walk n q
  | .many items => exact Content.entered_walkItems items q 0

theorem Content.entered_walkItems (cs : List Content) (q : Chain) (i : Nat) :
    (Content.walkItems (Position.ofChain q) i cs).filterMap Visit.entered =
      (Content.nodesOfItems q i cs).map placed := by
  match cs with
  | [] => rfl
  | c :: rest =>
    have hc := Content.entered_walk c (q ++ [i])
    have hrest := Content.entered_walkItems rest q (i + 1)
    rw [Content.walkItems, Content.nodesOfItems, List.filterMap_append, List.map_append, hrest,
      Position.item_ofChain, hc]

end

/-! ## Chains are different -/

/-- The chain leads through item `k` of what stands at `q`. -/
def Chain.Through (q : Chain) (k : Nat) (r : Chain) : Prop := ∃ s, r = q ++ k :: s

theorem Chain.through_unique {q r : Chain} {j k : Nat} (hj : Through q j r)
    (hk : Through q k r) : j = k := by
  obtain ⟨s, rfl⟩ := hj
  obtain ⟨t, ht⟩ := hk
  exact (List.cons.inj (List.append_cancel_left ht)).1

theorem Chain.Through.ne {q r : Chain} {k : Nat} (h : Through q k r) : r ≠ q := by
  obtain ⟨s, rfl⟩ := h
  intro he
  have := congrArg List.length he
  simp only [List.length_append, List.length_cons] at this
  omega

theorem Chain.Through.prefix {q r : Chain} {k : Nat} (h : Through q k r) : q <+: r := by
  obtain ⟨s, rfl⟩ := h
  exact List.prefix_append ..

/-- What leads through one item is not on the way through another. -/
theorem Chain.Through.not_prefix {q r s : Chain} {j k : Nat} (hj : Through q j r)
    (hk : Through q k s) (hne : j ≠ k) : ¬r <+: s := by
  obtain ⟨v, rfl⟩ := hj
  obtain ⟨w, rfl⟩ := hk
  rw [List.prefix_append_right_inj, List.cons_prefix_cons]
  exact fun h => hne h.1

/-- What leads through an item of an item leads through the outer one. -/
theorem Chain.Through.of_snoc {q r : Chain} {i k : Nat} (h : Through (q ++ [i]) k r) :
    Through q i r := by
  obtain ⟨s, rfl⟩ := h
  exact ⟨k :: s, by simp⟩

/-- Where the nodes of a content at `q` are: one at `q` itself, or below. -/
def Chain.From (q r : Chain) : Prop := r = q ∨ ∃ k, Through q k r

theorem Chain.From.through {q r : Chain} {i : Nat} (h : From (q ++ [i]) r) : Through q i r := by
  rcases h with rfl | ⟨k, hk⟩
  · exact ⟨[], rfl⟩
  · exact hk.of_snoc

mutual

theorem Node.nodup_nodes (n : Node) (q : Chain) :
    ((n.nodes q).map Prod.fst).Nodup ∧ ∀ e ∈ n.nodes q, Chain.From q e.1 := by
  match n with
  | ⟨type, props, children, events, bindings⟩ =>
    obtain ⟨hnodup, hbelow⟩ := Content.nodup_nodesBelow children q
    rw [Node.nodes]
    -- whatever lies below leads through an item, so only the node itself is at `q`
    refine ⟨?_, ?_⟩
    · rw [List.map_cons, List.nodup_cons]
      refine ⟨?_, hnodup⟩
      intro hq
      obtain ⟨e, he, heq⟩ := List.mem_map.mp hq
      obtain ⟨k, hk⟩ := hbelow e he
      exact hk.ne heq
    · intro e he
      rcases List.mem_cons.mp he with rfl | he
      · exact Or.inl rfl
      · exact Or.inr (hbelow e he)

theorem Content.nodup_nodesBelow (c : Content) (q : Chain) :
    ((c.nodesBelow q).map Prod.fst).Nodup ∧ ∀ e ∈ c.nodesBelow q, ∃ k, Chain.Through q k e.1 := by
  match c with
  | .empty => exact ⟨List.nodup_nil, fun e he => absurd he (by simp [Content.nodesBelow])⟩
  | .text _ => exact ⟨List.nodup_nil, fun e he => absurd he (by simp [Content.nodesBelow])⟩
  | .single n =>
    obtain ⟨hnodup, hfrom⟩ := Node.nodup_nodes n (q ++ [0])
    exact ⟨hnodup, fun e he => ⟨0, (hfrom e he).through⟩⟩
  | .many items =>
    obtain ⟨hnodup, hthrough⟩ := Content.nodup_nodesOfItems items q 0
    exact ⟨hnodup, fun e he => (hthrough e he).imp fun k hk => hk.2⟩

theorem Content.nodup_nodes (c : Content) (q : Chain) :
    ((c.nodes q).map Prod.fst).Nodup ∧ ∀ e ∈ c.nodes q, Chain.From q e.1 := by
  match c with
  | .empty => exact ⟨List.nodup_nil, fun e he => absurd he (by simp [Content.nodes])⟩
  | .text _ => exact ⟨List.nodup_nil, fun e he => absurd he (by simp [Content.nodes])⟩
  | .single n => exact Node.nodup_nodes n q
  | .many items =>
    obtain ⟨hnodup, hthrough⟩ := Content.nodup_nodesOfItems items q 0
    exact ⟨hnodup, fun e he => Or.inr ((hthrough e he).imp fun k hk => hk.2)⟩

theorem Content.nodup_nodesOfItems (cs : List Content) (q : Chain) (i : Nat) :
    ((Content.nodesOfItems q i cs).map Prod.fst).Nodup ∧
      ∀ e ∈ Content.nodesOfItems q i cs, ∃ k, i ≤ k ∧ Chain.Through q k e.1 := by
  match cs with
  | [] => exact ⟨List.nodup_nil, fun e he => absurd he (by simp [Content.nodesOfItems])⟩
  | c :: rest =>
    obtain ⟨hnodup, hfrom⟩ := Content.nodup_nodes c (q ++ [i])
    obtain ⟨hnodups, hthrough⟩ := Content.nodup_nodesOfItems rest q (i + 1)
    rw [Content.nodesOfItems]
    refine ⟨?_, ?_⟩
    · rw [List.map_append, List.nodup_append]
      refine ⟨hnodup, hnodups, ?_⟩
      -- the nodes of `c` lie under item `i`, those of `rest` under later items
      intro a ha b hb hab
      obtain ⟨e, he, rfl⟩ := List.mem_map.mp ha
      obtain ⟨f, hf, rfl⟩ := List.mem_map.mp hb
      obtain ⟨k, hik, hk⟩ := hthrough f hf
      have hi := (hfrom e he).through
      rw [hab] at hi
      have := Chain.through_unique hi hk
      omega
    · intro e he
      rcases List.mem_append.mp he with he | he
      · exact ⟨i, Nat.le_refl i, (hfrom e he).through⟩
      · obtain ⟨k, hik, hk⟩ := hthrough e he
        exact ⟨k, by omega, hk⟩

end

end AssistantUI
