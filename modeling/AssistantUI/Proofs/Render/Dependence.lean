import AssistantUI.Proofs.Render.InOrder
import AssistantUI.Proofs.Session.Mounts

/-!
# What a rendering depends on

Of all that a state holds, a rendering looks at what is under the keys that the definition names:
those that props are bound to, and in a flat form the names of the fields. Where two states agree
on these (`State.AgreeOn`), the same is shown and the same callbacks are there, with the same
props. A key that is not set is no different from one that is set to null. Only what is noted as
wrong tells the two apart.

The values that two merges leave do not depend on the order of the merges if they set different
keys. The order of the keys does, but no rendering looks at that.
-/

namespace AssistantUI

/-! ## Keys -/

/-- The keys of the state that the props of a node are bound to. -/
def Node.boundKeys (n : Node) : List String := n.bindings.entries.map Prod.snd

/-- The keys of the state that props of nodes of a content are bound to. -/
def Content.readKeys (c : Content) : List String := c.inOrder.flatMap Node.boundKeys

/-- The names of the fields among the components of a form. -/
def Flat.fieldNames (components : List Flat.Component) : List String :=
  (components.filter fun c => (Flat.fieldKind? c).isSome).map Flat.fieldName

/-- The keys of the state that a definition names. -/
def Definition.readKeys : Definition → List String
  | tree root => (Content.single root).readKeys
  | flat type members => if type = "form" then Flat.fieldNames (flatComponents members) else []

namespace State

/-- The states hold the same under the keys, or nothing where the other holds null. -/
def AgreeOn (keys : List String) (s t : State) : Prop := ∀ key ∈ keys, s.value key = t.value key

instance (keys : List String) (s t : State) : Decidable (AgreeOn keys s t) :=
  inferInstanceAs (Decidable (∀ key ∈ keys, s.value key = t.value key))

variable {keys others : List String} {s t : State}

theorem AgreeOn.mono (h : AgreeOn keys s t) (hsub : others ⊆ keys) : AgreeOn others s t :=
  fun key hkey => h key (hsub hkey)

theorem AgreeOn.left (h : AgreeOn (keys ++ others) s t) : AgreeOn keys s t :=
  h.mono (List.subset_append_left _ _)

theorem AgreeOn.right (h : AgreeOn (keys ++ others) s t) : AgreeOn others s t :=
  h.mono (List.subset_append_right _ _)

end State

variable {s t : State}

/-! ## Trees -/

theorem Node.renderedProps_congr {n : Node} (h : State.AgreeOn n.boundKeys s t) :
    n.renderedProps s = n.renderedProps t := by
  have hvalues : n.bindings.entries.map (fun e => (e.1, State.value s e.2)) =
      n.bindings.entries.map fun e => (e.1, State.value t e.2) := by
    refine List.map_congr_left fun e he => ?_
    have hkey : e.2 ∈ n.boundKeys := List.mem_map_of_mem he
    rw [h e.2 hkey]
  have hresolved : n.resolvedProps s = n.resolvedProps t := by
    rw [Node.resolvedProps, hvalues, Node.resolvedProps]
  rw [Node.renderedProps, hresolved, Node.renderedProps]

mutual

theorem Node.view_congr (n : Node) (h : State.AgreeOn (n.inOrder.flatMap Node.boundKeys) s t) :
    n.view s = n.view t := by
  match n with
  | ⟨type, props, children, events, bindings⟩ =>
    rw [Node.inOrder, List.flatMap_cons] at h
    have hprops : Node.renderedProps s ⟨type, props, children, events, bindings⟩ =
        Node.renderedProps t ⟨type, props, children, events, bindings⟩ :=
      Node.renderedProps_congr h.left
    have hbelow : children.views s = children.views t := Content.views_congr children h.right
    rw [Node.view, hprops, hbelow, Node.view]

theorem Content.views_congr (c : Content) (h : State.AgreeOn c.readKeys s t) :
    c.views s = c.views t := by
  match c with
  | .empty | .text _ => rfl
  | .single n => exact congrArg (fun v => [v]) (Node.view_congr n h)
  | .many items => exact Content.viewsOfList_congr items h

theorem Content.viewsOfList_congr (cs : List Content)
    (h : State.AgreeOn ((Content.inOrderOfItems cs).flatMap Node.boundKeys) s t) :
    Content.viewsOfList s cs = Content.viewsOfList t cs := by
  match cs with
  | [] => rfl
  | c :: rest =>
    rw [Content.inOrderOfItems, List.flatMap_append] at h
    have hitem : c.views s = c.views t := Content.views_congr c h.left
    have hrest := Content.viewsOfList_congr rest h.right
    rw [Content.viewsOfList, hitem, hrest, Content.viewsOfList]

end

/-- What a node of a content reads is among what the content reads. -/
theorem Content.boundKeys_subset {c : Content} {e : Chain × Node} (he : e ∈ c.nodes []) :
    e.2.boundKeys ⊆ c.readKeys := by
  intro key hkey
  have hbare : e.2.bare ∈ c.inOrder := by
    rw [← c.map_bare_nodes []]
    exact List.mem_map_of_mem he
  exact List.mem_flatMap.mpr ⟨e.2.bare, hbare, hkey⟩

theorem Content.callbacks_congr (c : Content) (h : State.AgreeOn c.readKeys s t) :
    c.callbacks s "" = c.callbacks t "" := by
  have hnode : ∀ e ∈ c.nodes [], Node.keyedCallbacks s e = Node.keyedCallbacks t e := by
    intro e he
    have hprops := Node.renderedProps_congr (h.mono (boundKeys_subset he))
    unfold Node.keyedCallbacks Node.callback
    rw [hprops]
  have hregistrations : c.registrations s "" = c.registrations t "" := by
    rw [registrations_root, registrations_root, List.flatMap_def, List.map_congr_left hnode,
      ← List.flatMap_def]
  rw [Content.callbacks, hregistrations, Content.callbacks]

/-! ## Flat forms -/

namespace Flat

theorem fieldProps_congr {c : Component} (h : s.value (fieldName c) = t.value (fieldName c))
    (kind : FieldKind) : fieldProps s kind c = fieldProps t kind c := by
  unfold fieldProps
  rw [h]

theorem fieldNames_cons (c : Component) (rest : List Component) :
    fieldNames (c :: rest) =
      (if (fieldKind? c).isSome then [fieldName c] else []) ++ fieldNames rest := by
  unfold fieldNames
  rw [List.filter_cons]
  split <;> rfl

/-- The first component, if it is a field, has the same props in both states. -/
theorem fieldProps_of_agreeOn {c : Component} {rest : List Component} {kind : FieldKind}
    (h : State.AgreeOn (fieldNames (c :: rest)) s t) (hkind : fieldKind? c = some kind) :
    fieldProps s kind c = fieldProps t kind c := by
  rw [fieldNames_cons, hkind] at h
  exact fieldProps_congr (h.left (fieldName c) (List.mem_singleton_self _)) kind

theorem formItems_congr (components : List Component)
    (h : State.AgreeOn (fieldNames components) s t) :
    components.filterMap (formItem s) = components.filterMap (formItem t) := by
  induction components with
  | nil => rfl
  | cons c rest ih =>
    have hitem : formItem s c = formItem t c := by
      unfold formItem
      cases hkind : fieldKind? c with
      | none => rfl
      | some kind =>
        have hprops := fieldProps_of_agreeOn h hkind
        dsimp only
        rw [fieldView, hprops, fieldView]
    rw [fieldNames_cons] at h
    rw [List.filterMap_cons, hitem, ih h.right, List.filterMap_cons]

theorem fieldRegistrations_congr (i : Nat) (components : List Component)
    (h : State.AgreeOn (fieldNames components) s t) :
    fieldRegistrations s i components = fieldRegistrations t i components := by
  induction components generalizing i with
  | nil => rfl
  | cons c rest ih =>
    rw [fieldRegistrations, fieldRegistrations]
    cases hkind : fieldKind? c with
    | none =>
      rw [fieldNames_cons] at h
      rw [ih (i + 1) h.right]
    | some kind =>
      have hprops := fieldProps_of_agreeOn h hkind
      rw [fieldNames_cons] at h
      dsimp only
      rw [ih (i + 1) h.right, hprops]

/-- No other layout looks at the state. -/
theorem view_of_ne {type : String} (h : type ≠ "form") (members : Component) :
    view s type members = view t type members := by
  unfold view
  split
  · exact absurd rfl h
  all_goals rfl

end Flat

/-! ## Definitions -/

namespace Definition

/-- What a definition shows depends on what the state holds under the keys that it names. -/
theorem render?_congr {d : Definition} (h : State.AgreeOn d.readKeys s t) :
    render? s (some d) = render? t (some d) := by
  cases d with
  | tree root => exact congrArg Rendered.one (Node.view_congr root h)
  | flat type members =>
    refine congrArg Rendered.one ?_
    by_cases htype : type = "form"
    · -- of the layouts only the form is made from the state
      subst htype
      have hitems := Flat.formItems_congr (flatComponents members) h
      show Flat.formView s _ = Flat.formView t _
      rw [Flat.formView, hitems, Flat.formView]
    · exact Flat.view_of_ne htype members

theorem callbacks?_congr {d : Definition} (h : State.AgreeOn d.readKeys s t) :
    callbacks? s (some d) = callbacks? t (some d) := by
  cases d with
  | tree root => exact Content.callbacks_congr (.single root) h
  | flat type members =>
    have hregistrations :
        Flat.registrations s type members = Flat.registrations t type members := by
      unfold Flat.registrations
      by_cases htype : type = "form"
      · subst htype
        have hfields := Flat.fieldRegistrations_congr 0 (flatComponents members) h
        rw [if_pos rfl, if_pos rfl, Flat.formRegistrations, hfields, Flat.formRegistrations]
      · rw [if_neg htype, if_neg htype]
    exact congrArg Dict.ofList hregistrations

end Definition

/-! ## The order of merges -/

/-- No key of one is a key of the other. -/
def State.Apart (u v : State) : Prop := ∀ j ∈ u.keys, ∀ k ∈ v.keys, (j == k) = false

instance (u v : State) : Decidable (u.Apart v) :=
  inferInstanceAs (Decidable (∀ j ∈ u.keys, ∀ k ∈ v.keys, (j == k) = false))

theorem State.get?_update_update {u v : State} (h : u.Apart v) (state : State) (k : Key) :
    ((state.update u).update v).get? k = ((state.update v).update u).get? k := by
  -- the key is not among those of both
  have hone : u.get? k = none ∨ v.get? k = none := by
    cases hu : u.get? k with
    | none => exact .inl rfl
    | some a =>
      cases hv : v.get? k with
      | none => exact .inr rfl
      | some b =>
        obtain ⟨e, he, hek, -⟩ := Dict.mem_of_find hu
        obtain ⟨f, hf, hfk, -⟩ := Dict.mem_of_find hv
        have hapart := h e.1 (List.mem_map_of_mem he) f.1 (List.mem_map_of_mem hf)
        have hsame : (e.1 == f.1) = true := BEq.trans hek (BEq.symm hfk)
        rw [hsame] at hapart
        cases hapart
  rw [Dict.get?_update, Dict.get?_update, Dict.get?_update, Dict.get?_update]
  rcases hone with hnone | hnone
  · rw [hnone, Option.none_or, Option.none_or]
  · rw [hnone, Option.none_or, Option.none_or]

theorem State.agreeOn_update_update {u v : State} (h : u.Apart v) (keys : List String)
    (state : State) :
    AgreeOn keys ((state.update u).update v) ((state.update v).update u) := by
  intro key _
  unfold State.value
  rw [get?_update_update h]

/-- **A rendering depends on the keys that are named and on nothing else in the state.** Where two
states agree on them, whatever else they hold and whether a key is unset or null, the same is shown
and the tables of callbacks are the same, props included. So a mount comes to show the same, and to
have the same callbacks, whichever of two merges of different keys is first. -/
theorem Definition.reads_named_keys_only (d : Definition) :
    (∀ s t : State, State.AgreeOn d.readKeys s t →
      render? s (some d) = render? t (some d) ∧ callbacks? s (some d) = callbacks? t (some d)) ∧
    ∀ (m : Mount) (u v : State), m.definition = some d → u.Apart v →
      ((m.merge u).merge v).view = ((m.merge v).merge u).view ∧
      ((m.merge u).merge v).callbacks = ((m.merge v).merge u).callbacks := by
  have hreads : ∀ s t : State, State.AgreeOn d.readKeys s t →
      render? s (some d) = render? t (some d) ∧ callbacks? s (some d) = callbacks? t (some d) :=
    fun s t h => ⟨render?_congr h, callbacks?_congr h⟩
  refine ⟨hreads, fun m u v hd hapart => ?_⟩
  by_cases hm : m.mounted = true
  · have hviews := hreads _ _ (State.agreeOn_update_update hapart d.readKeys m.store.values)
    have hmerged (changes : State) : (m.merge changes).mounted = true := by
      rw [Mount.merge_of_mounted hm]
      exact hm
    rw [Mount.merge_of_mounted (hmerged u), Mount.merge_of_mounted (hmerged v),
      Mount.merge_of_mounted hm, Mount.merge_of_mounted hm]
    rw [← hd] at hviews
    exact hviews
  · -- what was taken down keeps the rendering that it has
    have hmerged (changes : State) : ¬(m.merge changes).mounted = true := by
      rw [Mount.merge_of_not_mounted hm]
      exact hm
    rw [Mount.merge_of_not_mounted (hmerged u), Mount.merge_of_not_mounted (hmerged v),
      Mount.merge_of_not_mounted hm, Mount.merge_of_not_mounted hm]
    exact ⟨rfl, rfl⟩

/-- A field and the element around it, with a prop of each bound. -/
def Definition.titledField : Definition :=
  .tree ⟨"div", ∅, .many [.text "Name", .single ⟨"input", ∅, .empty,
      Dict.ofList [("onChange", .inert)], Dict.ofList [("value", "name")]⟩],
    ∅, Dict.ofList [("title", "title")]⟩

/-- A state in which nothing is set that the field shows, and one in which everything is null. -/
theorem Definition.reads_named_keys_only_unset :
    let unset : State := Dict.ofList [(.text "other", .int 1), (.int 1, .str "a")]
    let nulled : State := Dict.ofList [(.text "name", .null), (.text "title", .null)]
    let name : State := Dict.ofList [(.text "name", .str "a")]
    let title : State := Dict.ofList [(.text "title", .str "b"), (.text "other", .null)]
    State.AgreeOn titledField.readKeys unset nulled ∧
    (issues? unset (some titledField)).length = 2 ∧ issues? nulled (some titledField) = [] ∧
    render? unset (some titledField) = render? nulled (some titledField) ∧
    callbacks? unset (some titledField) = callbacks? nulled (some titledField) ∧
    name.Apart title ∧
    (((Mount.start "m" (some titledField) []).merge name).merge title).view =
      (((Mount.start "m" (some titledField) []).merge title).merge name).view := by
  intro unset nulled name title
  have hagree : State.AgreeOn titledField.readKeys unset nulled := by decide +kernel
  have hapart : name.Apart title := by decide +kernel
  obtain ⟨hreads, hmerges⟩ := reads_named_keys_only titledField
  obtain ⟨hrender, hcallbacks⟩ := hreads unset nulled hagree
  refine ⟨hagree, by decide +kernel, rfl, hrender, hcallbacks, hapart, ?_⟩
  exact (hmerges (Mount.start "m" (some titledField) []) name title rfl hapart).1

end AssistantUI
