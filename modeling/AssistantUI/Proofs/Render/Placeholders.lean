import AssistantUI.Proofs.Form.Flat
import AssistantUI.Proofs.Render.Elements
import Mathlib.Data.List.Forall2

/-!
# Placeholders and callbacks

What is shown and the table of callbacks are two results of one rendering, and a platform has to
bring them together: an element lists names, and under the key of a name there should be a callback
that says of the element what the element says of itself.

In a tree it is so for the nodes that have an element of their own (`Content.matches_of_dotFree`):
their events are the names that elements list, in the order of the elements and by name within one.
An unknown type is shown without its events, and what a void tag hides is not shown at all, but
both keep their callbacks. The flat form has a place for each of its callbacks
(`Flat.perm_formRegistrations`), though the form itself comes before its fields in what is shown
and after them in the table.
-/

namespace AssistantUI

/-! ## Names that elements list -/

/-- An element and a name that it lists. -/
abbrev Eval : Type := Element View × String

/-- The names that some elements list, element by element. -/
def evalsOf (els : List (Element View)) : List Eval :=
  els.flatMap fun el => el.eval.map (el, ·)

/-- The names that the elements of what is rendered list. -/
def Rendered.evals (r : Rendered View) : List Eval := evalsOf (View.elementsOfList r.toList)

theorem evalsOf_cons (el : Element View) (rest : List (Element View)) :
    evalsOf (el :: rest) = el.eval.map (el, ·) ++ evalsOf rest := List.flatMap_cons

theorem evalsOf_append (els rest : List (Element View)) :
    evalsOf (els ++ rest) = evalsOf els ++ evalsOf rest := List.flatMap_append

/-! ## Events of nodes -/

/-- An event of a node of a definition. -/
structure NodeEvent where
  chain : Chain
  node : Node
  name : String

namespace NodeEvent

/-- The key of its callback. -/
def key (e : NodeEvent) : String := Position.key e.chain e.name

/-- The name as the element of the node lists it. -/
def eval (state : State) (e : NodeEvent) : Eval := (e.node.element state, e.name)

/-- The events of a node in the order of their names. -/
def ofNode (e : Chain × Node) : List NodeEvent :=
  (sortNames e.2.events.keys).map fun name => ⟨e.1, e.2, name⟩

theorem mem_ofNode {f : Chain × Node} {e : NodeEvent} :
    e ∈ ofNode f ↔ e.chain = f.1 ∧ e.node = f.2 ∧ e.name ∈ f.2.events.keys := by
  rw [ofNode, List.mem_map]
  constructor
  · rintro ⟨name, hname, rfl⟩
    exact ⟨rfl, rfl, mem_sortNames.mp hname⟩
  · rintro ⟨hchain, hnode, hname⟩
    exact ⟨e.name, mem_sortNames.mpr hname, by rw [← hchain, ← hnode]⟩

/-- The events among some nodes that elements list: those of nodes that have an element of their
own tag. -/
def live (nodes : List (Chain × Node)) : List NodeEvent :=
  ((unhidden nodes).filter fun e => (Tag.ofName? e.2.type).isSome).flatMap ofNode

theorem mem_live {nodes : List (Chain × Node)} {e : NodeEvent} :
    e ∈ live nodes ↔ (e.chain, e.node) ∈ nodes ∧ e.name ∈ e.node.events.keys ∧
      (Tag.ofName? e.node.type).isSome ∧ hides nodes e.chain = false := by
  rw [live, List.mem_flatMap]
  constructor
  · rintro ⟨⟨q, n⟩, hmem, he⟩
    obtain ⟨rfl, rfl, hname⟩ := mem_ofNode.mp he
    obtain ⟨hmem, hknown⟩ := List.mem_filter.mp hmem
    obtain ⟨hmem, hhides⟩ := List.mem_filter.mp hmem
    exact ⟨hmem, hname, hknown, by simpa using hhides⟩
  · rintro ⟨hmem, hname, hknown, hhides⟩
    have hunhidden : (e.chain, e.node) ∈ unhidden nodes :=
      List.mem_filter.mpr ⟨hmem, by rw [hhides]; rfl⟩
    exact ⟨_, List.mem_filter.mpr ⟨hunhidden, hknown⟩, mem_ofNode.mpr ⟨rfl, rfl, hname⟩⟩

theorem live_cons (e : Chain × Node) (rest : List (Chain × Node)) :
    ((e :: rest).filter fun e => (Tag.ofName? e.2.type).isSome).flatMap ofNode =
      (if (Tag.ofName? e.2.type).isSome then ofNode e else []) ++
        (rest.filter fun e => (Tag.ofName? e.2.type).isSome).flatMap ofNode := by
  rw [List.filter_cons]
  split
  · exact List.flatMap_cons
  · rfl

end NodeEvent

theorem Node.map_eval (state : State) (e : Chain × Node) :
    (e.2.element state).eval.map (e.2.element state, ·) =
      (if (Tag.ofName? e.2.type).isSome then NodeEvent.ofNode e else []).map
        (NodeEvent.eval state) := by
  cases htag : Tag.ofName? e.2.type with
  | none =>
    rw [element_unknown htag]
    rfl
  | some tag =>
    have heval : (e.2.element state).eval = sortNames e.2.events.keys := by
      rw [element_known htag, Element.known]
    rw [heval, Option.isSome_some, if_pos rfl, NodeEvent.ofNode, List.map_map]
    rfl

/-- The names that the elements of nodes list are the events of the nodes that have a tag. -/
theorem evalsOf_shownElements (state : State) (nodes : List (Chain × Node)) :
    evalsOf (shownElements state nodes) = (NodeEvent.live nodes).map (NodeEvent.eval state) := by
  rw [shownElements, NodeEvent.live]
  induction unhidden nodes with
  | nil => rfl
  | cons e rest ih =>
    rw [List.map_cons, evalsOf_cons, ih, NodeEvent.live_cons, List.map_append, Node.map_eval]

/-! ## Trees -/

/-- The events of a content that its elements list. -/
def Content.liveEvents (c : Content) : List NodeEvent := NodeEvent.live (c.nodes [])

theorem Content.toList_render (c : Content) (state : State) :
    (c.render state).toList = c.views state := by
  cases c <;> rfl

theorem Content.evals_render (c : Content) (state : State) :
    (c.render state).evals = c.liveEvents.map (NodeEvent.eval state) := by
  rw [Rendered.evals, toList_render, elements_nodes state c [], evalsOf_shownElements]
  rfl

/-- Does the place lie below a node with a void tag? -/
def Content.BelowVoid (c : Content) (q : Chain) : Prop :=
  ∃ e ∈ c.nodes [], e.1 <+: q ∧ e.1 ≠ q ∧ ∃ tag, Tag.ofName? e.2.type = some tag ∧ tag.isVoid = true

theorem Node.showsChildren_eq_false {n : Node} :
    n.showsChildren = false ↔ ∃ tag, Tag.ofName? n.type = some tag ∧ tag.isVoid = true := by
  unfold showsChildren
  cases Tag.ofName? n.type <;> simp

theorem Content.hides_iff {c : Content} {q : Chain} :
    hides (c.nodes []) q = true ↔ c.BelowVoid q := by
  rw [hides_eq_true, BelowVoid]
  refine exists_congr fun e => and_congr_right fun _ => ?_
  rw [Node.showsChildren_eq_false]
  constructor
  · exact fun ⟨hvoid, hstart, hne⟩ => ⟨hstart, hne, hvoid⟩
  · exact fun ⟨hstart, hne, hvoid⟩ => ⟨hvoid, hstart, hne⟩

instance (c : Content) (q : Chain) : Decidable (c.BelowVoid q) :=
  decidable_of_iff _ Content.hides_iff

/-- What is shown of a content and its table of callbacks belong together. -/
structure Content.Matches (c : Content) (state : State) : Prop where
  /-- Each name that an element lists stands for one event in turn, and under the event's key there
  is a callback with the element's tag and props. -/
  turns : List.Forall₂ (fun (eval : Eval) (e : NodeEvent) =>
    eval = (e.node.element state, e.name) ∧ ∃ d, (e.name, d) ∈ e.node.events.entries ∧
      (c.callbacks state "").get? e.key =
        some ⟨.described d, eval.2, eval.1.tag.name, eval.1.props⟩)
    (c.render state).evals c.liveEvents
  /-- No two names stand for one callback. -/
  distinct : (c.liveEvents.map NodeEvent.key).Nodup
  /-- Within one element names are in the order of their characters. -/
  sorted : ∀ el ∈ View.elementsOfList (c.render state).toList, el.eval.Pairwise (· < ·)
  /-- Every event has a callback, but a name stands for it only if its node is of a known type and
  not below a void tag. -/
  live : ∀ q n, (q, n) ∈ c.nodes [] → ∀ name ∈ n.events.keys,
    (c.callbacks state "").contains (Position.key q name) = true ∧
      (Position.key q name ∈ c.liveEvents.map NodeEvent.key ↔
        (Tag.ofName? n.type).isSome ∧ ¬c.BelowVoid q)
  /-- The props are the node's own, but for those that are bound, but for those that are events. -/
  props : ∀ e ∈ c.liveEvents, ∀ k, (e.node.element state).props.get? k =
    if k ∈ e.node.events.keys then some (.str "$cb")
    else ((e.node.bindings.get? k).map fun key => (state.get? (.text key)).getD .null).or
      (e.node.props.get? k)

namespace Content

variable {c : Content}

/-- The callback of an event that an element lists says what the element says. -/
theorem get?_callbacks_of_live (h : c.DotFree) (state : State) {e : NodeEvent}
    (he : e ∈ c.liveEvents) : ∃ d, (e.name, d) ∈ e.node.events.entries ∧
      (c.callbacks state "").get? e.key =
        some ⟨.described d, e.name, (e.node.element state).tag.name,
          (e.node.element state).props⟩ := by
  obtain ⟨hmem, hname, hknown, -⟩ := NodeEvent.mem_live.mp he
  obtain ⟨tag, htag⟩ := Option.isSome_iff_exists.mp hknown
  obtain ⟨⟨name, d⟩, hevent, rfl⟩ := List.mem_map.mp hname
  refine ⟨d, hevent, ?_⟩
  rw [Node.element_known htag, Element.known, Tag.name_of_ofName? htag]
  exact get?_callbacks h state hmem hevent

theorem nodup_liveEvents (h : c.DotFree) : (c.liveEvents.map NodeEvent.key).Nodup := by
  have hnodes : (((unhidden (c.nodes [])).filter fun e => (Tag.ofName? e.2.type).isSome).map
      Prod.fst).Nodup := by
    have hsub := (List.filter_sublist (p := fun e : Chain × Node => (Tag.ofName? e.2.type).isSome)
      (l := unhidden (c.nodes []))).trans List.filter_sublist
    exact (hsub.map Prod.fst).nodup (c.nodup_nodes []).1
  -- a key tells both the node and the name
  have hevents : c.liveEvents.Pairwise fun e f => (e.chain, e.name) ≠ (f.chain, f.name) := by
    refine List.pairwise_flatMap.mpr ⟨fun e _ => ?_, ?_⟩
    · have hnames : (sortNames e.2.events.keys).Nodup :=
        (List.mergeSort_perm _ _).nodup_iff.mpr e.2.events.keys_nodup
      exact List.pairwise_map.mpr (hnames.imp fun hne heq => hne (congrArg Prod.snd heq))
    · refine (List.pairwise_map.mp hnodes).imp fun {e f} hne x hx y hy heq => ?_
      have hchains : x.chain = y.chain := congrArg Prod.fst heq
      rw [(NodeEvent.mem_ofNode.mp hx).1, (NodeEvent.mem_ofNode.mp hy).1] at hchains
      exact hne hchains
  have hfree : ∀ e ∈ c.liveEvents, '.' ∉ e.name.toList := by
    intro e he
    obtain ⟨hmem, hname, -, -⟩ := NodeEvent.mem_live.mp he
    exact h _ hmem _ hname
  refine List.pairwise_map.mpr (hevents.imp_of_mem fun {e f} he hf hne hkey => hne ?_)
  obtain ⟨hchain, hname⟩ := Position.key_injective (hfree e he) (hfree f hf) hkey
  rw [hchain, hname]

theorem mem_keys_liveEvents (h : c.DotFree) {q : Chain} {n : Node} (hn : (q, n) ∈ c.nodes [])
    {name : String} (hname : name ∈ n.events.keys) :
    Position.key q name ∈ c.liveEvents.map NodeEvent.key ↔
      (Tag.ofName? n.type).isSome ∧ ¬c.BelowVoid q := by
  rw [← hides_iff, Bool.not_eq_true, List.mem_map]
  constructor
  · rintro ⟨e, he, hkey⟩
    obtain ⟨hmem, hevent, hknown, hhides⟩ := NodeEvent.mem_live.mp he
    have hchain : e.chain = q :=
      (Position.key_injective (h _ hmem _ hevent) (h _ hn _ hname) hkey).1
    -- no two nodes have the same chain
    have hnode : e.node = n := by
      rw [hchain] at hmem
      have hfound := Dict.find_of_mem (c.nodup_nodes []).1 hmem
      exact Option.some.inj (hfound.symm.trans (Dict.find_of_mem (c.nodup_nodes []).1 hn))
    rw [hnode] at hknown
    rw [hchain] at hhides
    exact ⟨hknown, hhides⟩
  · rintro ⟨hknown, hhides⟩
    exact ⟨⟨q, n, name⟩, NodeEvent.mem_live.mpr ⟨hn, hname, hknown, hhides⟩, rfl⟩

theorem matches_of_dotFree (h : c.DotFree) (state : State) : c.Matches state where
  turns := by
    rw [evals_render, List.forall₂_map_left_iff]
    exact List.forall₂_same.mpr fun e he => ⟨rfl, get?_callbacks_of_live h state he⟩
  distinct := nodup_liveEvents h
  sorted := by
    rw [toList_render, elements_nodes state c []]
    intro el hel
    obtain ⟨e, -, rfl⟩ := List.mem_map.mp hel
    exact (e.2.sound_element state).sorted
  live := by
    intro q n hn name hname
    refine ⟨?_, mem_keys_liveEvents h hn hname⟩
    obtain ⟨event, hevent, rfl⟩ := List.mem_map.mp hname
    rw [Dict.contains, get?_callbacks h state hn hevent]
    rfl
  props := by
    intro e he k
    obtain ⟨-, -, hknown, -⟩ := NodeEvent.mem_live.mp he
    obtain ⟨tag, htag⟩ := Option.isSome_iff_exists.mp hknown
    rw [Node.element_known htag]
    exact e.node.get?_renderedProps state k

end Content

/-! ## The flat form -/

/-- What an element says of a name that it lists. -/
def Eval.told (eval : Eval) : String × String × Dict String Json :=
  (eval.2, eval.1.tag.name, eval.1.props)

/-- What a callback says of itself. -/
def Callback.told (cb : Callback) : String × String × Dict String Json :=
  (cb.event, cb.tag, cb.props)

namespace Flat

/-- The fields of a form have a name each, and the button has none. -/
theorem evals_formItems (state : State) (components : List Component) (i : Nat) :
    (evalsOf (View.elementsOfList (components.filterMap (formItem state)))).map Eval.told =
      (fieldRegistrations state i components).map fun e => e.2.told := by
  induction components generalizing i with
  | nil => rfl
  | cons c rest ih =>
    have hitem : (evalsOf (View.elementsOfList (formItem state c).toList)).map Eval.told =
        ((fieldKind? c).map fun kind =>
          ("onChange", kind.tag.name, fieldProps state kind c)).toList := by
      unfold formItem
      cases fieldKind? c with
      | some kind =>
        dsimp only [Option.toList, fieldView]
        split <;> rfl
      | none =>
        dsimp only
        split <;> rfl
    have hcons : (c :: rest).filterMap (formItem state) =
        (formItem state c).toList ++ rest.filterMap (formItem state) := by
      rw [List.filterMap_cons]
      cases formItem state c <;> rfl
    rw [hcons, View.elementsOfList_append, evalsOf_append, List.map_append, hitem, ih (i + 1),
      fieldRegistrations, List.map_append]
    refine congrArg (· ++ _) ?_
    cases fieldKind? c <;> rfl

/-- Each callback of a form has a name that an element lists for it, and each name a callback. -/
theorem perm_formRegistrations (state : State) (members : Component) :
    ((Definition.render? state (some (.flat "form" members))).evals.map Eval.told).Perm
      ((Definition.callbacks? state (some (.flat "form" members))).entries.map
        fun e => e.2.told) := by
  have hentries : (Definition.callbacks? state (some (.flat "form" members))).entries =
      formRegistrations state (flatComponents members) :=
    Dict.entries_ofList_of_nodup (nodup_formRegistrations state _)
  have hevals : (Definition.render? state (some (.flat "form" members))).evals.map Eval.told =
      ("onSubmit", Tag.form.name, formProps) :: (evalsOf (View.elementsOfList
        ((flatComponents members).filterMap (formItem state)))).map Eval.told := by
    have hform : (Definition.render? state (some (.flat "form" members))).evals =
      evalsOf (View.elementsOfList [formView state (flatComponents members)]) := rfl
    rw [hform, View.elementsOfList_singleton, formView, title, View.el, View.el,
      View.elements_element, View.elementsOfList, View.elementsOfList_singleton,
      View.elements_element, View.elements_element]
    rfl
  rw [hentries, hevals, evals_formItems state _ 0, formRegistrations, List.map_append]
  exact (List.perm_append_singleton _ _).symm

end Flat

/-- **Names in elements and callbacks belong together.** In a tree whose events have no dots in
their names, each name that an element lists has its own callback, with the element's tag and props,
and exactly the events of unknown types and those below void tags are not listed. In a flat form
each callback is listed. -/
theorem placeholders_match (state : State) :
    (∀ c : Content, c.DotFree → c.Matches state) ∧
    ∀ members, ((Definition.render? state (some (.flat "form" members))).evals.map Eval.told).Perm
      ((Definition.callbacks? state (some (.flat "form" members))).entries.map
        fun e => e.2.told) :=
  ⟨fun _ h => Content.matches_of_dotFree h state, Flat.perm_formRegistrations state⟩

/-- The field below an unknown type is listed, but neither that type itself nor what the field has
below it. -/
theorem placeholders_match_tangled :
    Content.tangled.DotFree ∧ Content.tangled.Matches ∅ ∧
    ∀ e ∈ Content.tangled.nodes [], ∀ name ∈ e.2.events.keys,
      (Position.key e.1 name ∈ Content.tangled.liveEvents.map NodeEvent.key ↔
        Position.key e.1 name ∈ ["1.onClick", "1.2.onBlur", "1.2.onChange", "2.1.1.0.onBlur",
          "2.1.1.0.onChange"]) := by
  have hfree : Content.tangled.DotFree := by decide +kernel
  have hmatches := (placeholders_match ∅).1 Content.tangled hfree
  have hkeys : ∀ e ∈ Content.tangled.nodes [], ∀ name ∈ e.2.events.keys,
      ((Tag.ofName? e.2.type).isSome ∧ ¬Content.tangled.BelowVoid e.1 ↔
        Position.key e.1 name ∈ ["1.onClick", "1.2.onBlur", "1.2.onChange", "2.1.1.0.onBlur",
          "2.1.1.0.onChange"]) := by decide +kernel
  exact ⟨hfree, hmatches, fun e he name hname =>
    (hmatches.live e.1 e.2 he name hname).2.trans (hkeys e he name hname)⟩

end AssistantUI
