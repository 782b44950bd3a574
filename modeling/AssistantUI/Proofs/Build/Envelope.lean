import AssistantUI.Proofs.Build.Outline
import AssistantUI.Proofs.Reporter

/-!
# A tree that was asked for and its envelope

Who asks for a tree gets it in an envelope, as JSON. The one who mounts the envelope sees what was
built, and nothing that was built makes reading complain: every event names an action that means
something, and every update is a reference that is read as one. Only depth is lost, where a value
that is shown nests too deep.

Two things follow. Nothing that was passed as a parameter can act, on either side of the trip
(`parameters_inert`). And where nothing is cut off, it makes no difference whether the tree or its
envelope is mounted (`envelope_is_tree`).
-/

namespace AssistantUI

namespace Build

/-! ## Events and bindings of a form -/

section

variable {β : Type} {g : Kind → List β}

theorem FieldOutline.flatMap_kinds {f : FieldOutline} {x : β} (hplain : ∀ tag, g (.plain tag) = [])
    (hcontrol : ∀ tag, g (controlKind tag f.name) = [x]) : f.kinds.flatMap g = [x] := by
  have hmarker : (if f.marked then [Kind.plain .span] else []).flatMap g = [] := by
    split
    · rw [List.flatMap_singleton, hplain]
    · rfl
  have hbelow : (f.control.kinds f.name).flatMap g = [x] := by
    cases f.control with
    | textarea | input => rw [ControlOutline.kinds, List.flatMap_singleton, hcontrol]
    | select options =>
      have hoptions : (List.replicate options (Kind.plain .option)).flatMap g = [] :=
        List.flatMap_eq_nil_iff.mpr fun k hk => List.eq_of_mem_replicate hk ▸ hplain _
      rw [ControlOutline.kinds, List.flatMap_cons, hcontrol, hoptions, List.append_nil]
  rw [FieldOutline.kinds, List.flatMap_append, List.flatMap_cons, List.flatMap_append, hplain,
    hmarker, hbelow, List.flatMap_singleton, hplain]
  rfl

theorem flatMap_kinds_form {x : String → β} (hplain : ∀ tag, g (.plain tag) = [])
    (hcontrol : ∀ tag name, g (controlKind tag name) = [x name]) (fields : List FieldOutline) :
    (Outline.form fields).kinds.flatMap g =
      g ⟨Tag.form.name, Dict.ofList [("onSubmit", formEvent)], ∅⟩ ++
        (fields.map FieldOutline.name).map x ++
        g ⟨Tag.button.name, Dict.ofList [("onClick", submitEvent)], ∅⟩ := by
  have hfields : (fields.flatMap FieldOutline.kinds).flatMap g =
      (fields.map FieldOutline.name).map x := by
    rw [List.flatMap_assoc, List.map_map, List.map_eq_flatMap]
    exact List.flatMap_congr fun f _ => f.flatMap_kinds hplain fun tag => hcontrol tag f.name
  rw [Outline.kinds, List.flatMap_cons, List.flatMap_cons, List.flatMap_cons, List.flatMap_append,
    hplain, hplain, hfields, List.flatMap_singleton]
  simp

end

/-! ## Parameters -/

/-- What can be said of the nodes of a tree, whatever the parameters are. -/
structure Inert (name : Json) (ps : Parameters) (kinds : List Kind) : Prop where
  outlined : ∃ o : Outline, o.Fits name ps ∧ kinds = o.kinds
  /-- No node is of a type that comes from a parameter. -/
  types : ∀ k ∈ kinds, k.type ∈ ["div", "h3", "h4", "p", "pre", "label", "span", "textarea",
    "select", "option", "input", "form", "button", "table", "thead", "tbody", "tr", "th", "td"]
  /-- Nothing but a form does anything. -/
  idle : name ≠ .str "form" → ∀ k ∈ kinds, k.events = ∅ ∧ k.bindings = ∅
  /-- A form suppresses its own submission, writes what is entered under the names of its fields,
  and submits; it does nothing else. -/
  form : name = .str "form" →
    ∃ fields, (ps.valueOr "fields" Sample.fields).items = .ok fields ∧
      kinds.flatMap (fun k => k.events.entries) =
        [("onSubmit",
          { action := some "preventDefault", updates := none, emits := none, data := none })] ++
        (fields.map FieldSpec.nameOf).map (fun f => ("onChange",
          { action := some "updateState", updates := some (Dict.ofList [(f, .field .value)])
            emits := none, data := none })) ++
        [("onClick",
          { action := some "submit", updates := none, emits := some "submit", data := some ∅ })] ∧
      kinds.flatMap (fun k => k.bindings.entries) =
        (fields.map FieldSpec.nameOf).map fun f => ("value", f)

theorem Outline.inert {o : Outline} {name : Json} {ps : Parameters} (h : o.Fits name ps) :
    Inert name ps o.kinds where
  outlined := ⟨o, h, rfl⟩
  types k hk := by
    cases o.written h k hk with
    | plain htag => exact List.mem_map_of_mem (f := Tag.name) htag
    | control name htag => exact List.mem_map_of_mem (f := Tag.name) htag
    | form => decide
    | button => decide
  idle hname k hk := by
    obtain ⟨ts, -, hkinds⟩ := o.kinds_eq_plain h hname
    rw [hkinds] at hk
    obtain ⟨tag, -, rfl⟩ := List.mem_map.mp hk
    exact ⟨rfl, rfl⟩
  form hname := by
    subst hname
    obtain ⟨fields, rfl⟩ := eq_form_of_fits h
    obtain ⟨-, items, hitems, hsame⟩ := h
    refine ⟨items, hitems, ?_, ?_⟩
    · rw [flatMap_kinds_form (x := fun f => ("onChange", changeEvent f)) (fun _ => rfl)
        (fun _ _ => rfl), hsame]
      rfl
    · rw [flatMap_kinds_form (x := fun f => ("value", f)) (fun _ => rfl) (fun _ _ => rfl), hsame]
      exact List.append_nil _

/-- Every event that is ever written can be read back and names an action that means something. -/
theorem Written.event {k : Kind} (h : Written k) :
    ∀ e ∈ k.events.entries, ReadableEvent e ∧ e.2.Understood := by
  intro e he
  cases h with
  | plain => exact absurd he List.not_mem_nil
  | control name =>
    obtain rfl := List.mem_singleton.mp he
    exact ⟨readable_changeEvent name, fun _ => rfl⟩
  | form =>
    obtain rfl := List.mem_singleton.mp he
    exact ⟨readable_formEvent, fun _ => rfl⟩
  | button =>
    obtain rfl := List.mem_singleton.mp he
    exact ⟨readable_submitEvent, fun _ => rfl⟩

theorem HasOutline.allEvents {name : Json} {ps : Parameters} {root : Node}
    (h : HasOutline name ps root) :
    root.AllEvents fun e => ReadableEvent e ∧ e.2.Understood := by
  obtain ⟨o, hfits, hshows⟩ := h
  rw [Node.allEvents_iff_kinds, show root.kinds = o.kinds from hshows.kinds]
  exact fun k hk => (o.written hfits k hk).event

/--
**No parameter acts.** Whatever is passed for an archetype, the nodes of the tree are those that
the builder writes, on this side of the trip and on the other, also where the tree is cut off.
-/
theorem parameters_inert {name parameters : Json} {root : Node}
    (h : tree name parameters = .ok root) :
    ∃ ps left issues, parameters.toDictOrEmpty = .ok ps ∧ Inert name ps root.kinds ∧
      Definition.parse root.envelope = .ok (some (.tree left), issues) ∧
      Inert name ps left.kinds := by
  obtain ⟨ps, hps, houtline⟩ := hasOutline_tree h
  obtain ⟨issues, hparse, -⟩ := Definition.parse_envelope_cut
    (houtline.allEvents.imp fun _ he => he.1)
  obtain ⟨o, hfits, hshows⟩ := houtline
  have hroot : Inert name ps root.kinds := by
    rw [show root.kinds = o.kinds from hshows.kinds]
    exact Outline.inert hfits
  refine ⟨ps, root.cut 0, issues, hps, hroot, hparse, ?_⟩
  rw [Node.kinds_cut hshows (by omega)]
  exact hroot

/-- A request whose every value looks like something that acts. -/
def hostileFields : Json :=
  let node : Json := .obj [("type", .str "script"), ("events", .obj [("onClick",
    .obj [("action", .str "submit"), ("emitEvent", .str "submit")])])]
  .obj [("title", node), ("submitLabel", .arr [node, .arr [node]]),
    ("fields", .arr [.obj [("name", .str "onClick"), ("label", node), ("type", .str "select"),
      ("required", node), ("options", .arr [.obj [("value", node), ("label", node)]])]])]

/-- It gives a form with one field, which is all that acts when it is read back. -/
theorem parameters_inert_hostile : ∃ root left issues, tree (.str "form") hostileFields = .ok root ∧
    Definition.parse root.envelope = .ok (some (.tree left), issues) ∧
    left.kinds.flatMap (fun k => k.bindings.entries) = [("value", "onClick")] := by
  have hbuild : tree (.str "form") hostileFields = .ok _ := rfl
  obtain ⟨ps, left, issues, hps, -, hparse, hleft⟩ := parameters_inert hbuild
  obtain ⟨fields, hfields, -, hbindings⟩ := hleft.form rfl
  obtain rfl := Except.ok.inj hps
  obtain rfl := Except.ok.inj hfields
  exact ⟨_, left, issues, hbuild, hparse, hbindings⟩

end Build

/-! ## Mounting -/

/-- A note without the name of the mount in its details. -/
def Diagnostic.unnamed (d : Diagnostic) : Diagnostic :=
  { d with details := Dict.ofList (d.details.entries.filter fun e => e.1 != "mount_id") }

/-- The mounts show the same, call back the same and noted the same, whatever their names are. -/
structure Mount.Agrees (m n : Mount) : Prop where
  view : m.view = n.view
  callbacks : m.callbacks = n.callbacks
  diagnostics : m.reporter.diagnostics.map Diagnostic.unnamed =
    n.reporter.diagnostics.map Diagnostic.unnamed

namespace Reporter

/-- Two reporters that noted the same, in mounts of any names. -/
structure Agrees (r r' : Reporter) : Prop where
  diagnostics : r.diagnostics.map Diagnostic.unnamed = r'.diagnostics.map Diagnostic.unnamed
  seen : r.seen.map Prod.fst = r'.seen.map Prod.fst

theorem unnamed_note (r r' : Reporter) (report : Report) :
    (r.note report).unnamed = (r'.note report).unnamed := by
  have hdetails (r : Reporter) :
      (r.note report).details.entries.filter (fun e => e.1 != "mount_id") =
        report.details.entries.filter fun e => e.1 != "mount_id" := by
    unfold note
    cases r.mountId with
    | none => rfl
    | some id => exact Dict.filter_insertNew ..
  rw [Diagnostic.unnamed, Diagnostic.unnamed, hdetails, hdetails]
  rfl

variable {r r' : Reporter}

theorem Agrees.append (h : Agrees r r') (report : Report) :
    Agrees (r.append report) (r'.append report) where
  diagnostics := by
    show (r.diagnostics ++ [r.note report]).map _ = (r'.diagnostics ++ [r'.note report]).map _
    rw [List.map_append, List.map_append, h.diagnostics, List.map_singleton, List.map_singleton,
      unnamed_note]
  seen := by
    unfold Reporter.append
    cases report.onceKey? with
    | none => exact h.seen
    | some key => simp [h.seen]

theorem Agrees.add (h : Agrees r r') (i : Issue) : Agrees (r.add i) (r'.add i) := by
  have hsame : r.has = r'.has := by
    funext id
    rw [has, has, isSome_seen?, isSome_seen?, h.seen]
  rw [add_eq, add_eq, hsame]
  split
  · exact h
  · exact h.append i.report

theorem Agrees.addAll (h : Agrees r r') (is : List Issue) :
    Agrees (r.addAll is) (r'.addAll is) := by
  induction is generalizing r r' with
  | nil => exact h
  | cons i rest ih => exact ih (h.add i)

end Reporter

theorem Mount.agrees_start (id id' : String) (definition : Option Definition)
    (issues : List Issue) : (start id definition issues).Agrees (start id' definition issues) where
  view := rfl
  callbacks := rfl
  diagnostics := by
    have h : Reporter.Agrees { mountId := some (.str id) } { mountId := some (.str id') } :=
      ⟨rfl, rfl⟩
    exact ((h.addAll issues).addAll _).diagnostics

/-- What is mounted is a new mount of the session. -/
def Session.Mounts {σ : Type} (host : Host σ) (s : Session σ) (what : Mountable) (m : Mount) :
    Prop :=
  mount host what s = (.ok (some s.mounts.length), s.unmount.start m)

namespace Build

/--
**A tree and its envelope are the same to whoever mounts them**, unless something is cut off.
-/
theorem envelope_is_tree {name parameters j : Json} (h : envelope name parameters = .ok j) :
    ∃ root left issues, tree name parameters = .ok root ∧
      Definition.parse j = .ok (some (.tree left), issues) ∧
      ((∀ i ∈ issues, i.isTruncation = false) → left = root ∧ issues = [] ∧
        (∀ (σ : Type) (host : Session.Host σ) (s : Session σ),
          Session.mount host (.json j) s = Session.mount host (.node root) s) ∧
        ∀ (σ τ : Type) (host : Session.Host σ) (s : Session σ) (host' : Session.Host τ)
          (s' : Session τ), ∃ m m', Session.Mounts host s (.json j) m ∧
            Session.Mounts host' s' (.node root) m' ∧ m.Agrees m') := by
  obtain ⟨root, hroot, h⟩ := Except.of_bind_ok h
  obtain rfl := Except.ok.inj h
  obtain ⟨ps, -, houtline⟩ := hasOutline_tree hroot
  obtain ⟨issues, hparse, hreadable⟩ := Definition.parse_envelope_cut
    (houtline.allEvents.imp fun _ he => he.1)
  refine ⟨root, root.cut 0, issues, hroot, hparse, fun hnone => ?_⟩
  have hquiet : root.unknownActions "" = [] :=
    root.unknownActions_eq_nil (houtline.allEvents.imp fun _ he => he.2) ""
  have hback := Definition.parse_envelope (Node.parse_toJson (hreadable hnone) "")
  rw [hquiet] at hback
  obtain ⟨hleft, rfl⟩ := Prod.mk.inj (Except.ok.inj (hparse.symm.trans hback))
  -- both are read as the tree, and neither reading finds anything wrong
  have hjson {σ : Type} (host : Session.Host σ) (s : Session σ) :
      Session.Mounts host s (.json root.envelope)
        (Mount.start (host.mountId s.mounts.length) (some (.tree root)) []) :=
    Session.mount_of_ok host s rfl hback
  have hnode {σ : Type} (host : Session.Host σ) (s : Session σ) :
      Session.Mounts host s (.node root)
        (Mount.start (host.mountId s.mounts.length) (some (.tree root)) []) :=
    Session.mount_of_ok host s rfl rfl
  refine ⟨Definition.tree.inj (Option.some.inj hleft), rfl,
    fun σ host s => (hjson host s).trans (hnode host s).symm, ?_⟩
  intro σ τ host s host' s'
  exact ⟨_, _, hjson host s, hnode host' s', Mount.agrees_start ..⟩

/-- Nothing is cut off of a form with hostile fields, so it may be mounted in either way. -/
theorem envelope_is_tree_hostile : ∃ j root, envelope (.str "form") hostileFields = .ok j ∧
    tree (.str "form") hostileFields = .ok root ∧
    ∀ (host : Session.Host Unit) (s : Session Unit),
      Session.mount host (.json j) s = Session.mount host (.node root) s := by
  have hbuild : envelope (.str "form") hostileFields = .ok _ := rfl
  obtain ⟨root, left, issues, hroot, hparse, hwhole⟩ := envelope_is_tree hbuild
  -- the value is read once more to see that nothing is cut off
  obtain rfl : [] = issues := (Prod.mk.inj (Except.ok.inj hparse)).2
  obtain ⟨-, -, hmount, -⟩ := hwhole (List.forall_mem_nil _)
  exact ⟨_, root, hbuild, hroot, hmount Unit⟩

end Build

end AssistantUI
