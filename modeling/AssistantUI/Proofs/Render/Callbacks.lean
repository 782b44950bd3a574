import AssistantUI.Proofs.Dict
import AssistantUI.Proofs.Render.Nodes

/-!
# The table of callbacks

Rendering writes callbacks into a table whose keys are texts, and a table overwrites without
a word. Whether an event of some node is lost is therefore a question about keys: two events
would have to spell the same one. Where no event name holds a dot they never do, since a key
says which event of which node it belongs to and no two nodes have the same chain.

So the table is the list of all events of all nodes (`Content.entries_callbacks`), whatever
lists, empty items, unknown types and void tags the tree is made of.
-/

namespace AssistantUI

/-- No node of the content has an event whose name holds a dot. -/
def Content.DotFree (c : Content) : Prop :=
  ∀ e ∈ c.nodes [], ∀ name ∈ e.2.events.keys, '.' ∉ name.toList

instance (c : Content) : Decidable c.DotFree :=
  inferInstanceAs (Decidable (∀ e ∈ c.nodes [], ∀ name ∈ e.2.events.keys, '.' ∉ name.toList))

/-- The callback of an event of a node. -/
def Node.callback (state : State) (n : Node) (event : String × EventDescriptor) : Callback :=
  ⟨.described event.2, event.1, n.type, n.renderedProps state⟩

/-- The callbacks of a node at a chain, each under its key. -/
def Node.keyedCallbacks (state : State) (e : Chain × Node) : List (String × Callback) :=
  e.2.events.entries.map fun event => (Position.key e.1 event.1, e.2.callback state event)

theorem Node.callbacks_ofChain (state : State) (e : Chain × Node) :
    e.2.callbacks state (Position.ofChain e.1) = Node.keyedCallbacks state e := by
  unfold Node.callbacks Node.keyedCallbacks Node.callback
  simp only [Position.under_ofChain]

/-! ## What is registered -/

/-- Only the steps that come to a node register callbacks. -/
theorem Visit.flatMap_callbacks (state : State) (visits : List Visit) :
    visits.flatMap (Visit.callbacks state) =
      (visits.filterMap Visit.entered).flatMap fun e => e.2.callbacks state e.1 := by
  induction visits with
  | nil => rfl
  | cons v rest ih =>
    rw [List.flatMap_cons, ih]
    cases v with
    | enter pos n => rfl
    | leave pos n => rfl

theorem Content.registrations_root (c : Content) (state : State) :
    c.registrations state "" = (c.nodes []).flatMap (Node.keyedCallbacks state) := by
  have hwalk := c.entered_walk []
  rw [Position.ofChain_nil] at hwalk
  rw [Content.registrations, Visit.flatMap_callbacks, hwalk, List.flatMap_map]
  exact congrArg (List.flatMap · _) (funext fun e => Node.callbacks_ofChain state e)

/-! ## Nothing is overwritten -/

theorem Node.keys_keyedCallbacks (state : State) (e : Chain × Node) :
    (Node.keyedCallbacks state e).map Prod.fst = e.2.events.keys.map (Position.key e.1) := by
  rw [Node.keyedCallbacks, List.map_map, Dict.keys, List.map_map]
  rfl

/-- All keys that are registered differ. -/
theorem Content.nodup_registrations {c : Content} (h : c.DotFree) (state : State) :
    ((c.registrations state "").map Prod.fst).Nodup := by
  rw [registrations_root, List.map_flatMap]
  simp only [Node.keys_keyedCallbacks]
  refine List.pairwise_flatMap.mpr ⟨?_, ?_⟩
  · -- the events of one node have different names
    intro e he
    refine List.pairwise_map.mpr (e.2.events.keys_nodup.imp_of_mem ?_)
    intro a b ha hb hab hkey
    exact hab (Position.key_injective (h e he a ha) (h e he b hb) hkey).2
  · -- different nodes have different chains
    have hchains := List.pairwise_map.mp (c.nodup_nodes []).1
    refine hchains.imp_of_mem ?_
    intro e f he hf hef x hx y hy hxy
    obtain ⟨a, ha, rfl⟩ := List.mem_map.mp hx
    obtain ⟨b, hb, rfl⟩ := List.mem_map.mp hy
    exact hef (Position.key_injective (h e he a ha) (h f hf b hb) hxy).1

theorem Content.entries_callbacks {c : Content} (h : c.DotFree) (state : State) :
    (c.callbacks state "").entries = (c.nodes []).flatMap (Node.keyedCallbacks state) := by
  rw [callbacks, Dict.entries_ofList_of_nodup (nodup_registrations h state), registrations_root]

/-- An event of a node is found under the node's chain and its own name. -/
theorem Content.get?_callbacks {c : Content} (h : c.DotFree) (state : State) {q : Chain} {n : Node}
    (hn : (q, n) ∈ c.nodes []) {event : String × EventDescriptor} (he : event ∈ n.events.entries) :
    (c.callbacks state "").get? (Position.key q event.1) = some (n.callback state event) := by
  refine Dict.get?_of_mem ?_
  rw [entries_callbacks h]
  exact List.mem_flatMap.mpr ⟨(q, n), hn, List.mem_map_of_mem he⟩

/-- **Every event of every node has its callback in the table, and nothing else has.** The
table lists them in pre-order, each under the indices that lead to its node and its own name,
with the type of the node and a handler for what the node itself describes. -/
theorem Content.callbacks_complete (c : Content) (h : c.DotFree) (state : State) :
    (c.callbacks state "").keys.Nodup ∧
    (c.callbacks state "").entries = ((c.nodes []).flatMap fun e =>
      e.2.events.entries.map fun event =>
        (Position.key e.1 event.1,
          ⟨.described event.2, event.1, e.2.type, e.2.renderedProps state⟩)) ∧
    ∀ q n, (q, n) ∈ c.nodes [] → ∀ name d, (name, d) ∈ n.events.entries →
      (c.callbacks state "").get? (Position.key q name) =
        some ⟨.described d, name, n.type, n.renderedProps state⟩ := by
  refine ⟨(c.callbacks state "").keys_nodup, entries_callbacks h state, ?_⟩
  intro q n hn name d he
  exact get?_callbacks h state hn he

/-- Everything that sets positions apart from what is shown: empty items, lists in lists, an
unknown type with an only child, and a void tag with children that are dropped. -/
def Content.tangled : Content :=
  let onClick := Dict.ofList [("onClick", { EventDescriptor.inert with emits := some "clicked" })]
  let field : Node := ⟨"input", ∅, .single ⟨"p", ∅, .text "lost", onClick, ∅⟩,
    Dict.ofList [("onChange", .inert), ("onBlur", .inert)], ∅⟩
  .many [.empty, .single ⟨"div", ∅, .many [.text "a", .empty, .single field], onClick, ∅⟩,
    .many [.text "b", .many [.empty, .single ⟨"widget", ∅, .single field, onClick, ∅⟩]]]

theorem Content.callbacks_complete_tangled :
    tangled.DotFree ∧ (tangled.callbacks ∅ "").keys.Nodup ∧
    (tangled.callbacks ∅ "").keys =
      ["1.onClick", "1.2.onChange", "1.2.onBlur", "1.2.0.onClick", "2.1.1.onClick",
        "2.1.1.0.onChange", "2.1.1.0.onBlur", "2.1.1.0.0.onClick"] := by
  have hfree : tangled.DotFree := by decide +kernel
  obtain ⟨hnodup, hentries, -⟩ := callbacks_complete tangled hfree ∅
  refine ⟨hfree, hnodup, ?_⟩
  rw [Dict.keys, hentries]
  decide +kernel

end AssistantUI
