import AssistantUI.Proofs.Definition.Reading
import AssistantUI.Proofs.Render.Callbacks

/-!
# How reading and rendering number the nodes

A definition is walked through twice. Reading names a node where it finds something wrong with it,
rendering where it registers its events, and both join indices by dots. They agree on the items of
lists, but not on an only child: rendering counts it as item 0 of its parent, reading leaves it at
the place of its parent. So the two names of a node are made of one and the same `Route`, from which
reading drops every step to an only child.

As an issue about an unknown action leaves its event in place, both walks speak of that event, and
what reading says of it is the key of its callback exactly if no only child is on the way to it
(`Definition.unknownActions_at_keys_iff`).
-/

namespace AssistantUI

/-- A step from a node to what is in it. -/
inductive Step where
  /-- To its only child. -/
  | only
  /-- To an item of a list. -/
  | item (i : Nat)
  deriving DecidableEq

/-- The steps that lead from the root to a node, the outermost first. -/
abbrev Route := List Step

namespace Route

/-- The indices that rendering counts, one for each step. -/
def rendered (r : Route) : Chain := r.map fun
  | .only => 0
  | .item i => i

/-- The indices that reading counts, none for an only child. -/
def read (r : Route) : Chain := r.filterMap fun
  | .only => none
  | .item i => some i

theorem rendered_only (r : Route) : rendered (r ++ [.only]) = rendered r ++ [0] := List.map_append

theorem rendered_item (r : Route) (i : Nat) : rendered (r ++ [.item i]) = rendered r ++ [i] :=
  List.map_append

theorem read_only (r : Route) : read (r ++ [.only]) = read r := by
  rw [read, List.filterMap_append]
  exact List.append_nil _

theorem read_item (r : Route) (i : Nat) : read (r ++ [.item i]) = read r ++ [i] :=
  List.filterMap_append

/-- Reading counts as many indices as rendering only if every step is to an item. -/
theorem read_eq_rendered_iff (r : Route) : r.read = r.rendered ↔ .only ∉ r := by
  induction r with
  | nil => exact iff_of_true rfl List.not_mem_nil
  | cons s rest ih =>
    cases s with
    | only =>
      refine iff_of_false (fun h => ?_) fun h => h List.mem_cons_self
      -- what is dropped is missing at the end
      have hlength := congrArg List.length h
      rw [rendered, List.length_map, List.length_cons] at hlength
      have hle : (read rest).length ≤ rest.length := List.length_filterMap_le ..
      exact Nat.not_succ_le_self _ (hlength ▸ hle)
    | item i =>
      have hcons : read (.item i :: rest) = rendered (.item i :: rest) ↔
          read rest = rendered rest := List.cons_inj_right i
      rw [hcons, ih, List.mem_cons, not_or]
      exact (and_iff_right nofun).symm

end Route

theorem Position.key_eq_append (q : Chain) (name : String) : key q name = key q "" ++ name := by
  rw [← under_ofChain, ← under_ofChain, under, under]
  split
  · exact String.empty_append.symm
  · rw [String.append_empty]

/-- The same event of two nodes has the same key only if they have the same chain. -/
theorem Position.key_left_inj {q r : Chain} {name : String} :
    key q name = key r name ↔ q = r := by
  refine ⟨fun h => ?_, congrArg (key · name)⟩
  rw [key_eq_append q, key_eq_append r, String.append_left_inj] at h
  exact (key_injective (by decide) (by decide) h).1

/-! ## Nodes by their routes -/

mutual

/-- The nodes of a tree whose root is reached by a route, in pre-order. -/
def Node.routes (r : Route) (n : Node) : List (Route × Node) :=
  match n with
  | ⟨type, props, children, events, bindings⟩ =>
    (r, ⟨type, props, children, events, bindings⟩) :: Content.routesBelow r children

/-- The nodes of the children of the node that a route leads to. -/
def Content.routesBelow (r : Route) (c : Content) : List (Route × Node) :=
  match c with
  | .empty => []
  | .text _ => []
  | .single n => Node.routes (r ++ [.only]) n
  | .many items => Content.routesOfItems r 0 items

/-- The nodes of a content that a route leads to. -/
def Content.routes (r : Route) (c : Content) : List (Route × Node) :=
  match c with
  | .empty => []
  | .text _ => []
  | .single n => Node.routes r n
  | .many items => Content.routesOfItems r 0 items

/-- The nodes of items, numbered from `i`, of a list that a route leads to. -/
def Content.routesOfItems (r : Route) (i : Nat) (cs : List Content) : List (Route × Node) :=
  match cs with
  | [] => []
  | c :: rest => Content.routes (r ++ [.item i]) c ++ Content.routesOfItems r (i + 1) rest

end

/-- A node with the indices that rendering counts. -/
def Route.chained (e : Route × Node) : Chain × Node := (e.1.rendered, e.2)

open Route (chained)

mutual

/-- Rendering walks along the routes. -/
theorem Node.nodes_rendered (n : Node) (r : Route) :
    n.nodes r.rendered = (n.routes r).map chained := by
  match n with
  | ⟨type, props, children, events, bindings⟩ =>
    rw [Node.nodes, Node.routes, List.map_cons, Content.nodesBelow_rendered children r]
    rfl

theorem Content.nodesBelow_rendered (c : Content) (r : Route) :
    c.nodesBelow r.rendered = (c.routesBelow r).map chained := by
  match c with
  | .empty | .text _ => rfl
  | .single n =>
    rw [Content.nodesBelow, ← Route.rendered_only]
    exact Node.nodes_rendered n (r ++ [.only])
  | .many items => exact Content.nodesOfItems_rendered items r 0

theorem Content.nodes_rendered (c : Content) (r : Route) :
    c.nodes r.rendered = (c.routes r).map chained := by
  match c with
  | .empty | .text _ => rfl
  | .single n => exact Node.nodes_rendered n r
  | .many items => exact Content.nodesOfItems_rendered items r 0

theorem Content.nodesOfItems_rendered (cs : List Content) (r : Route) (i : Nat) :
    Content.nodesOfItems r.rendered i cs = (Content.routesOfItems r i cs).map chained := by
  match cs with
  | [] => rfl
  | c :: rest =>
    rw [Content.nodesOfItems, Content.routesOfItems, List.map_append, ← Route.rendered_item,
      Content.nodes_rendered c, Content.nodesOfItems_rendered rest]

end

/-- The issues about unknown actions of a node, at the place where reading finds it. -/
def Route.unknownActions (e : Route × Node) : List Issue :=
  e.2.ownUnknownActions (Position.ofChain e.1.read)

mutual

/-- Reading goes along the same routes, past the steps to an only child. -/
theorem Node.unknownActions_read (n : Node) (r : Route) :
    n.unknownActions (Position.ofChain r.read) = (n.routes r).flatMap Route.unknownActions := by
  match n with
  | ⟨type, props, children, events, bindings⟩ =>
    rw [Node.unknownActions, Node.routes, List.flatMap_cons,
      Content.unknownActions_readBelow children r]
    rfl

theorem Content.unknownActions_readBelow (c : Content) (r : Route) :
    c.unknownActions (Position.ofChain r.read) =
      (c.routesBelow r).flatMap Route.unknownActions := by
  match c with
  | .empty | .text _ => rfl
  | .single n =>
    rw [Content.unknownActions, Content.routesBelow, ← Route.read_only]
    exact Node.unknownActions_read n (r ++ [.only])
  | .many items => exact Content.unknownActionsOfList_read items r 0

theorem Content.unknownActions_read (c : Content) (r : Route) :
    c.unknownActions (Position.ofChain r.read) = (c.routes r).flatMap Route.unknownActions := by
  match c with
  | .empty | .text _ => rfl
  | .single n => exact Node.unknownActions_read n r
  | .many items => exact Content.unknownActionsOfList_read items r 0

theorem Content.unknownActionsOfList_read (cs : List Content) (r : Route) (i : Nat) :
    Content.unknownActionsOfList (Position.ofChain r.read) i cs =
      (Content.routesOfItems r i cs).flatMap Route.unknownActions := by
  match cs with
  | [] => rfl
  | c :: rest =>
    rw [Content.unknownActionsOfList, Content.routesOfItems, List.flatMap_append,
      Position.item_ofChain, ← Route.read_item, Content.unknownActions_read c,
      Content.unknownActionsOfList_read rest]

end

/-! ## Events by their routes -/

/-- An event of a node of a tree, and the way to the node. -/
structure PlacedEvent where
  route : Route
  node : Node
  name : String
  descriptor : EventDescriptor

namespace PlacedEvent

/-- The place that reading notes for the event. -/
def notedAt (e : PlacedEvent) : Position := Position.key e.route.read e.name

/-- The key under which rendering registers the event. -/
def key (e : PlacedEvent) : Position := Position.key e.route.rendered e.name

theorem notedAt_eq_key_iff (e : PlacedEvent) : e.notedAt = e.key ↔ .only ∉ e.route := by
  rw [notedAt, key, Position.key_left_inj, Route.read_eq_rendered_iff]

end PlacedEvent

/-- The events of a node that a route leads to. -/
def Route.placedEvents (e : Route × Node) : List PlacedEvent :=
  e.2.events.entries.map fun event => ⟨e.1, e.2, event.1, event.2⟩

/-- The events of all nodes of a tree, in pre-order. -/
def Node.placedEvents (root : Node) : List PlacedEvent :=
  (root.routes []).flatMap Route.placedEvents

/-- Does the event name an action that means nothing? -/
def EventDescriptor.actsUnknown (d : EventDescriptor) : Bool :=
  match d.action with
  | some a => !knownAction a
  | none => false

/-- Does the callback belong to such an event? -/
def Callback.actsUnknown (c : Callback) : Bool :=
  match c.handler with
  | .described d => d.actsUnknown
  | _ => false

theorem Node.registrations_eq_placedEvents (root : Node) (state : State) :
    (Content.single root).registrations state "" = root.placedEvents.map fun e =>
      (e.key, e.node.callback state (e.name, e.descriptor)) := by
  have hnodes : (Content.single root).nodes [] = (root.routes []).map chained :=
    root.nodes_rendered []
  rw [Content.registrations_root, hnodes, List.flatMap_map, placedEvents, List.map_flatMap]
  simp only [Route.placedEvents, List.map_map]
  rfl

theorem Route.unknownActions_eq_placedEvents (e : Route × Node) :
    unknownActions e = (placedEvents e).flatMap fun e => e.descriptor.unknownAction e.notedAt := by
  rw [unknownActions, Node.ownUnknownActions, placedEvents, List.flatMap_map]
  simp only [Position.under_ofChain]
  rfl

theorem Node.unknownActions_eq_placedEvents (root : Node) :
    root.unknownActions "" = root.placedEvents.flatMap fun e =>
      e.descriptor.unknownAction e.notedAt := by
  have hroutes : root.unknownActions "" = (root.routes []).flatMap Route.unknownActions :=
    root.unknownActions_read []
  rw [hroutes, placedEvents, List.flatMap_assoc]
  exact congrArg (List.flatMap · _) (funext Route.unknownActions_eq_placedEvents)

/-! ## Both of one event -/

/-- The place in the details of an issue. -/
def Issue.at (i : Issue) : Json := Json.member i.details "at"

theorem EventDescriptor.map_at_unknownAction (d : EventDescriptor) (pos : Position) :
    (d.unknownAction pos).map Issue.at = if d.actsUnknown then [.str pos] else [] := by
  obtain ⟨action, updates, emits, data⟩ := d
  cases action with
  | none => rfl
  | some a =>
    show (if knownAction a then [] else [Issue.actionUnknown pos a]).map Issue.at =
      if !knownAction a then [.str pos] else []
    cases knownAction a <;> rfl

theorem Node.map_at_unknownActions (root : Node) :
    (root.unknownActions "").map Issue.at =
      (root.placedEvents.filter fun e => e.descriptor.actsUnknown).map fun e => .str e.notedAt := by
  rw [unknownActions_eq_placedEvents, List.map_flatMap]
  simp only [EventDescriptor.map_at_unknownAction]
  induction root.placedEvents with
  | nil => rfl
  | cons e rest ih =>
    rw [List.flatMap_cons, ih, List.filter_cons]
    cases e.descriptor.actsUnknown <;> rfl

theorem Node.map_key_registrations (root : Node) (state : State) :
    (((Content.single root).registrations state "").filter fun e => e.2.actsUnknown).map
        (fun e => Json.str e.1) =
      (root.placedEvents.filter fun e => e.descriptor.actsUnknown).map fun e => .str e.key := by
  rw [registrations_eq_placedEvents, List.filter_map, List.map_map]
  rfl

theorem Definition.unknownActions_of_parse {raw : Json} (hraw : raw.hasDistinctKeys = true)
    {root : Node} {issues : List Issue}
    (h : Definition.parse raw = .ok (some (.tree root), issues)) :
    issues.filter Issue.isActionUnknown = root.unknownActions "" := by
  unfold Definition.parse at h
  split at h
  · cases (Parse.of_pure_ok h).1
  · next members =>
    split at h
    · split at h
      · next node hnode =>
        obtain ⟨n, is, js, hn, hpure, rfl⟩ := Parse.of_bind_ok h
        obtain ⟨hroot, rfl⟩ := Parse.of_pure_ok hpure
        obtain rfl := Definition.tree.inj (Option.some.inj hroot)
        have hdistinct := Json.hasDistinctKeys_member (Json.hasDistinctKeys_obj.mp hraw).2
          "definition"
        rw [hnode] at hdistinct
        obtain ⟨-, hmembers⟩ := Json.hasDistinctKeys_obj.mp hdistinct
        rw [List.append_nil]
        exact (Node.unknownActions_of_parseWith hmembers
          (fun c js hc => Content.readable_of_parseChildren node hmembers hc) hn).2
      · cases (Parse.of_report_ok h).1
    · split at h
      · cases (Parse.of_pure_ok h).1
      · cases (Parse.of_report_ok h).1
  · cases (Parse.of_report_ok h).1

/--
**Reading and rendering speak of the same events, and name them alike exactly if no only child is
on the way.** Reading notes every event whose action is unknown, in order, at the indices of the
items alone, and rendering registers all events, these among them, under the indices of all steps.
-/
theorem Definition.unknownActions_at_keys_iff {raw : Json} (hraw : raw.hasDistinctKeys = true)
    {root : Node} {issues : List Issue}
    (h : Definition.parse raw = .ok (some (.tree root), issues)) (state : State) :
    issues.filter Issue.isActionUnknown =
      root.placedEvents.flatMap (fun e => e.descriptor.unknownAction e.notedAt) ∧
    (Content.single root).registrations state "" =
      root.placedEvents.map (fun e => (e.key, e.node.callback state (e.name, e.descriptor))) ∧
    ((issues.filter Issue.isActionUnknown).map Issue.at =
        (((Content.single root).registrations state "").filter fun e => e.2.actsUnknown).map
          (fun e => Json.str e.1) ↔
      ∀ e ∈ root.placedEvents, e.descriptor.actsUnknown = true → .only ∉ e.route) := by
  have hread := unknownActions_of_parse hraw h
  refine ⟨hread.trans root.unknownActions_eq_placedEvents,
    root.registrations_eq_placedEvents state, ?_⟩
  rw [hread, root.map_at_unknownActions, root.map_key_registrations, List.map_inj_left]
  refine forall_congr' fun e => ?_
  rw [List.mem_filter, and_imp, Json.str.injEq, e.notedAt_eq_key_iff]

/-- A button with an action that means nothing, once in a list and once as an only child. -/
def Json.confused : Json :=
  let button : Json := .obj [("type", .str "button"),
    ("events", .obj [("onClick", .obj [("action", .str "explode")])])]
  .obj [("renderType", .str treeMarker), ("definition", .obj [("type", .str "div"),
    ("children", .arr [.null, button, .obj [("type", .str "p"), ("children", button)]])])]

/-- The one in the list is noted at its key, and the other at the place of its parent. -/
theorem Definition.unknownActions_at_keys_iff_confused :
    Json.confused.hasDistinctKeys = true ∧
    ∃ root issues, Definition.parse Json.confused = .ok (some (.tree root), issues) ∧
      issues.map Issue.at = [.str "1.onClick", .str "2.onClick"] ∧
      ((Content.single root).registrations ∅ "").map Prod.fst = ["1.onClick", "2.0.onClick"] ∧
      ¬∀ e ∈ root.placedEvents, e.descriptor.actsUnknown = true → .only ∉ e.route := by
  have hdistinct : Json.confused.hasDistinctKeys = true := by decide
  have hparse : Definition.parse Json.confused = .ok (some (.tree _), _) := rfl
  obtain ⟨-, hregistered, hiff⟩ := unknownActions_at_keys_iff hdistinct hparse ∅
  refine ⟨hdistinct, _, _, hparse, by decide +kernel, by decide +kernel, fun honly => ?_⟩
  exact absurd (hiff.mpr honly) (by decide +kernel)

/-- A definition whose only node has an only child. -/
def Json.onlyChild : Json :=
  .obj [("renderType", .str treeMarker), ("definition", .obj [("type", .str "div"),
    ("children", .obj [("type", .str "button"),
      ("events", .obj [("onClick", .obj [("action", .str "explode")])])])])]

/-- Reading need not note an event at the key of its callback. -/
theorem Definition.not_unknownActions_at_keys :
    ¬∀ (raw : Json) (root : Node) (issues : List Issue) (state : State),
      raw.hasDistinctKeys = true →
      Definition.parse raw = .ok (some (.tree root), issues) →
        (issues.filter Issue.isActionUnknown).map Issue.at =
          (((Content.single root).registrations state "").filter fun e => e.2.actsUnknown).map
            (fun e => Json.str e.1) := by
  intro h
  have hparse : Definition.parse Json.onlyChild = .ok (some (.tree _), _) := rfl
  exact absurd (h Json.onlyChild _ _ ∅ (by decide) hparse) (by decide +kernel)

end AssistantUI
