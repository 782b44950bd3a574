import AssistantUI.Proofs.Render.Nodes
import AssistantUI.Proofs.Reporter

/-!
# What rendering finds wrong

A node by itself says what rendering can find wrong with it: each of its props that is bound to a
key that is not set, and its type if that is no tag. The walk through a tree finds the issues of
all nodes, below void tags and unknown types too, each with the position of its node
(`Content.issues_perm`).

While nothing is set the walk finds all that it can ever find. These issues differ in the code and
key that they are filed under, since a position can be read back from a key and no two nodes have
the same one (`Content.nodup_onceIds`). So a reporter notes each of them, and in any later state
rendering finds only what is on record (`Content.issues_subset`).
-/

namespace AssistantUI

/-! ## The issues of all nodes -/

/-- The issues of the node at a chain. -/
def Node.issuesAt (state : State) (e : Chain × Node) : List Issue :=
  Visit.issues state (.enter (Position.ofChain e.1) e.2) ++
    Visit.issues state (.leave (Position.ofChain e.1) e.2)

variable (state : State)

mutual

theorem Node.issues_perm (n : Node) (q : Chain) :
    ((n.walk (Position.ofChain q)).flatMap (Visit.issues state)).Perm
      ((n.nodes q).flatMap (Node.issuesAt state)) := by
  match n with
  | ⟨type, props, children, events, bindings⟩ =>
    have hbelow := Content.issuesBelow_perm children q
    rw [Node.walk, Node.nodes, List.flatMap_cons, List.flatMap_append, List.flatMap_singleton,
      List.flatMap_cons, Node.issuesAt, List.append_assoc]
    -- the type is looked at after what is below
    exact (List.perm_append_comm.trans (hbelow.append_left _)).append_left _

theorem Content.issuesBelow_perm (c : Content) (q : Chain) :
    ((c.walkChildren (Position.ofChain q)).flatMap (Visit.issues state)).Perm
      ((c.nodesBelow q).flatMap (Node.issuesAt state)) := by
  match c with
  | .empty | .text _ => exact .nil
  | .single n =>
    rw [Content.walkChildren, Position.item_ofChain]
    exact Node.issues_perm n (q ++ [0])
  | .many items => exact Content.issuesOfItems_perm items q 0

theorem Content.issuesAt_perm (c : Content) (q : Chain) :
    ((c.walk (Position.ofChain q)).flatMap (Visit.issues state)).Perm
      ((c.nodes q).flatMap (Node.issuesAt state)) := by
  match c with
  | .empty | .text _ => exact .nil
  | .single n => exact Node.issues_perm n q
  | .many items => exact Content.issuesOfItems_perm items q 0

theorem Content.issuesOfItems_perm (cs : List Content) (q : Chain) (i : Nat) :
    ((Content.walkItems (Position.ofChain q) i cs).flatMap (Visit.issues state)).Perm
      ((Content.nodesOfItems q i cs).flatMap (Node.issuesAt state)) := by
  match cs with
  | [] => exact .nil
  | c :: rest =>
    have hitem := Content.issuesAt_perm c (q ++ [i])
    have hrest := Content.issuesOfItems_perm rest q (i + 1)
    rw [Content.walkItems, Content.nodesOfItems, List.flatMap_append, List.flatMap_append,
      Position.item_ofChain]
    exact hitem.append hrest

end

/-- Rendering finds the issues of all nodes, in some order. -/
theorem Content.issues_perm (c : Content) :
    (c.issues state "").Perm ((c.nodes []).flatMap (Node.issuesAt state)) :=
  c.issuesAt_perm state []

/-! ## While nothing is set -/

/-- The issues of the node at a chain while nothing is set: one for each bound prop, and one if the
type is no tag. -/
def Node.firstIssues (e : Chain × Node) : List Issue :=
  (e.2.bindings.entries.map fun b => .bindingMissing (Position.ofChain e.1) b.1 b.2) ++
    if (Tag.ofName? e.2.type).isSome then [] else [.tagUnknown (Position.ofChain e.1) e.2.type]

theorem Node.issuesAt_empty (e : Chain × Node) : Node.issuesAt ∅ e = Node.firstIssues e := by
  have hunset (b : String × String) : (∅ : State).contains (.text b.2) = false := rfl
  unfold issuesAt firstIssues Visit.issues
  simp [hunset]

/-- In any other state no issue is new. -/
theorem Visit.issues_subset (v : Visit) : v.issues state ⊆ v.issues ∅ := by
  cases v with
  | enter pos n =>
    intro i hi
    obtain ⟨b, hb, hib⟩ := List.mem_filterMap.mp hi
    refine List.mem_filterMap.mpr ⟨b, hb, ?_⟩
    split at hib
    · cases hib
    · exact hib
  | leave pos n => exact List.Subset.refl _

theorem Content.issues_subset (c : Content) (pos : Position) :
    c.issues state pos ⊆ c.issues ∅ pos := by
  intro i hi
  obtain ⟨v, hv, hiv⟩ := List.mem_flatMap.mp hi
  exact List.mem_flatMap.mpr ⟨v, hv, v.issues_subset state hiv⟩

/-! ## What they are filed under -/

/-- Every issue of rendering is noted only once. -/
theorem Visit.onceId?_of_mem_issues {state : State} {v : Visit} {i : Issue}
    (h : i ∈ v.issues state) : ∃ id, i.onceId? = some id := by
  cases v with
  | enter pos n =>
    obtain ⟨b, -, hib⟩ := List.mem_filterMap.mp h
    split at hib
    · cases hib
    · obtain rfl := Option.some.inj hib
      exact ⟨_, rfl⟩
  | leave pos n =>
    rw [issues] at h
    split at h
    · exact absurd h List.not_mem_nil
    · rw [List.mem_singleton.mp h]
      exact ⟨_, rfl⟩

theorem Content.onceId?_of_mem_issues {state : State} {c : Content} {pos : Position} {i : Issue}
    (h : i ∈ c.issues state pos) : ∃ id, i.onceId? = some id := by
  obtain ⟨v, -, hiv⟩ := List.mem_flatMap.mp h
  exact Visit.onceId?_of_mem_issues hiv

/-- What an issue of the node at a chain is filed under: its code, and the position of the node
with a label behind it. -/
theorem Node.of_mem_firstIssues {e : Chain × Node} {i : Issue} (h : i ∈ Node.firstIssues e) :
    (∃ prop ∈ e.2.bindings.keys,
      i.onceId? = some ("binding.missing", Position.ofChain e.1 ++ ":" ++ prop)) ∨
    i.onceId? = some ("render.unknown_tag", Position.ofChain e.1 ++ ":" ++ e.2.type) := by
  rcases List.mem_append.mp h with h | h
  · obtain ⟨b, hb, rfl⟩ := List.mem_map.mp h
    exact .inl ⟨b.1, List.mem_map_of_mem hb, rfl⟩
  · split at h
    · exact absurd h List.not_mem_nil
    · rw [List.mem_singleton.mp h]
      exact .inr rfl

/-- Nodes at different chains have no issues that are filed under the same. -/
theorem Node.chain_of_onceId? {e f : Chain × Node} {i j : Issue} (hi : i ∈ Node.firstIssues e)
    (hj : j ∈ Node.firstIssues f) (h : i.onceId? = j.onceId?) : e.1 = f.1 := by
  have hlabel {e : Chain × Node} {i : Issue} (hi : i ∈ Node.firstIssues e) :
      ∃ code label, i.onceId? = some (code, Position.ofChain e.1 ++ ":" ++ label) := by
    rcases Node.of_mem_firstIssues hi with ⟨prop, -, hid⟩ | hid
    · exact ⟨_, prop, hid⟩
    · exact ⟨_, e.2.type, hid⟩
  obtain ⟨code, label, hid⟩ := hlabel hi
  obtain ⟨code', label', hid'⟩ := hlabel hj
  rw [hid, hid'] at h
  exact (Position.labelled_injective (Prod.mk.inj (Option.some.inj h)).2).1

/-- The issues of one node are filed under different codes and keys. -/
theorem Node.nodup_onceIds (e : Chain × Node) :
    ((Node.firstIssues e).filterMap Issue.onceId?).Nodup := by
  have hprops : ((e.2.bindings.entries.map fun b =>
      Issue.bindingMissing (Position.ofChain e.1) b.1 b.2).filterMap Issue.onceId?) =
      e.2.bindings.keys.map fun prop =>
        ("binding.missing", Position.ofChain e.1 ++ ":" ++ prop) := by
    rw [List.filterMap_map, Dict.keys, List.map_map, ← List.filterMap_eq_map]
    rfl
  unfold firstIssues
  rw [List.filterMap_append, hprops, List.nodup_append]
  refine ⟨?_, ?_, ?_⟩
  · -- no prop is bound twice
    refine List.pairwise_map.mpr (e.2.bindings.keys_nodup.imp ?_)
    intro a b hab heq
    exact hab (Position.labelled_injective (Prod.mk.inj heq).2).2
  · split
    · exact List.nodup_nil
    · exact List.pairwise_singleton _ _
  · -- the codes are different
    intro a ha b hb hab
    obtain ⟨prop, -, rfl⟩ := List.mem_map.mp ha
    split at hb
    · exact absurd hb List.not_mem_nil
    · have hcode : "binding.missing" = "render.unknown_tag" :=
        congrArg Prod.fst (hab.trans (List.mem_singleton.mp hb))
      exact absurd hcode (by decide)

/-- All issues of the first rendering are filed under different codes and keys. -/
theorem Content.nodup_onceIds (c : Content) :
    ((c.issues ∅ "").filterMap Issue.onceId?).Nodup := by
  have hperm := (c.issues_perm ∅).filterMap Issue.onceId?
  rw [funext Node.issuesAt_empty, List.filterMap_flatMap] at hperm
  refine hperm.nodup_iff.mpr (List.pairwise_flatMap.mpr ⟨fun e _ => Node.nodup_onceIds e, ?_⟩)
  -- different nodes have different chains
  have hchains := List.pairwise_map.mp (c.nodup_nodes []).1
  refine hchains.imp ?_
  intro e f hef x hx y hy hxy
  obtain ⟨i, hi, hix⟩ := List.mem_filterMap.mp hx
  obtain ⟨j, hj, hjy⟩ := List.mem_filterMap.mp hy
  exact hef (Node.chain_of_onceId? hi hj (by rw [hix, hjy, hxy]))

end AssistantUI
