import AssistantUI.Proofs.Definition.Kinds
import AssistantUI.Proofs.Form.Tree

/-!
# What parameters can do to a tree

The parameters of a request come from outside and may be any JSON: a title may be an object that
looks like a node, a cell may look like an event. What is shown of them is text or nothing. All
that they decide about the nodes of a tree is its `Outline`: how many fields, options, cards and
cells there are, and which of the builder's own alternatives is taken for each.

So the outline has no room for a value. `kinds_tree` says that the nodes of every tree are those of
an outline, and `parameters_inert` what follows of their types, their events and their bindings, in
the tree that is built and in the one that is read back.
-/

namespace AssistantUI

/-- What a list of steps gives, pair by pair. -/
theorem Except.forall₂_of_mapM_ok {ε α β : Type} {f : α → Except ε β} {as : List α} {bs : List β}
    (h : as.mapM f = .ok bs) : List.Forall₂ (fun a b => f a = .ok b) as bs := by
  induction as generalizing bs with
  | nil =>
    obtain rfl := Except.ok.inj h
    exact .nil
  | cons a rest ih =>
    rw [List.mapM_cons] at h
    obtain ⟨c, hc, h⟩ := of_bind_ok h
    obtain ⟨cs, hcs, h⟩ := of_bind_ok h
    obtain rfl := Except.ok.inj h
    exact .cons hc (ih hcs)

/-- Where every step has something in between, the list of steps has a list in between. -/
theorem forall₂_between {α β γ : Type} {Q : α → γ → Prop} {R : α → β → Prop} {S : β → γ → Prop}
    {as : List α} {cs : List γ} (hstep : ∀ a c, Q a c → ∃ b, R a b ∧ S b c)
    (h : List.Forall₂ Q as cs) : ∃ bs, List.Forall₂ R as bs ∧ List.Forall₂ S bs cs := by
  induction h with
  | nil => exact ⟨[], .nil, .nil⟩
  | cons hac _ ih =>
    obtain ⟨b, hab, hbc⟩ := hstep _ _ hac
    obtain ⟨bs, hbs, hcs⟩ := ih
    exact ⟨b :: bs, .cons hab hbs, .cons hbc hcs⟩

/-- The name of an archetype. -/
def Archetype.name : Archetype → String
  | form => "form"
  | dashboard => "dashboard"
  | chart => "chart"
  | table => "table"

theorem Archetype.name_of_ofName? {name : Json} {a : Archetype} (h : ofName? name = some a) :
    Json.str a.name = name := by
  unfold ofName? at h
  split at h
  · exact Option.some.inj h ▸ rfl
  · exact Option.some.inj h ▸ rfl
  · exact Option.some.inj h ▸ rfl
  · exact Option.some.inj h ▸ rfl
  · cases h

namespace Build

/-! ## Outlines -/

/-- The control of a field. -/
inductive ControlOutline where
  | textarea
  | select (options : Nat)
  | input

/-- A field: the name under which it is kept, its control and whether it is marked as required. -/
structure FieldOutline where
  name : String
  marked : Bool
  control : ControlOutline

/-- What there is to say about the nodes of a tree. -/
inductive Outline where
  | form (fields : List FieldOutline)
  /-- For each card, whether it stands for a chart. -/
  | dashboard (cards : List Bool)
  | chart
  /-- The number of headers, and of the cells in each row. -/
  | table (headers : Nat) (rows : List Nat)
  | unknown

/-- The node that shows and writes what the state holds under a name. -/
def controlKind (tag : Tag) (name : String) : Kind :=
  ⟨tag.name, Dict.ofList [("onChange", changeEvent name)], Dict.ofList [("value", name)]⟩

def ControlOutline.kinds (name : String) : ControlOutline → List Kind
  | textarea => [controlKind .textarea name]
  | select options => controlKind .select name :: List.replicate options (.plain .option)
  | input => [controlKind .input name]

def FieldOutline.kinds (f : FieldOutline) : List Kind :=
  (.plain .label :: if f.marked then [.plain .span] else []) ++
    (f.control.kinds f.name ++ [.plain .div])

def cardTags (chart : Bool) : List Tag := if chart then [.div, .h4, .div, .p] else [.div, .h4, .p]

def rowTags (cells : Nat) : List Tag := .tr :: List.replicate cells .td

/-- The nodes of an outline, parents before their children. -/
def Outline.kinds : Outline → List Kind
  | form fields =>
    .plain .div :: .plain .h3 :: ⟨Tag.form.name, Dict.ofList [("onSubmit", formEvent)], ∅⟩ ::
      (fields.flatMap FieldOutline.kinds ++
        [⟨Tag.button.name, Dict.ofList [("onClick", submitEvent)], ∅⟩])
  | dashboard cards => ([Tag.div, .h3, .div] ++ cards.flatMap cardTags).map .plain
  | chart => [Tag.div, .h3, .div, .p, .div, .h4, .pre].map .plain
  | table headers rows =>
    ([Tag.div, .h3, .div, .table] ++ (Tag.thead :: .tr :: List.replicate headers .th) ++
      (Tag.tbody :: rows.flatMap rowTags)).map .plain
  | unknown => [.plain .p]

/-- Is this an outline of what a name and parameters ask for? -/
def Outline.Fits (name : Json) (ps : Parameters) : Outline → Prop
  | form fields => name = .str "form" ∧
      ∃ items, (ps.valueOr "fields" Sample.fields).items = .ok items ∧
        fields.map FieldOutline.name = items.map FieldSpec.nameOf
  | dashboard cards => name = .str "dashboard" ∧
      ∃ items, (ps.valueOr "cards" Sample.cards).items = .ok items ∧ cards.length = items.length
  | chart => name = .str "chart"
  | table headers rows => name = .str "table" ∧
      ∃ hs rs, (ps.valueOr "headers" Sample.headers).items = .ok hs ∧ headers = hs.length ∧
        (ps.valueOr "rows" Sample.rows).items = .ok rs ∧
        List.Forall₂ (fun r n => ∃ cells, r.items = .ok cells ∧ n = cells.length) rs rows
  | unknown => Archetype.ofName? name = none

/-! ## Nodes one by one -/

section

variable {h : Nat} {ks : List Kind} {cs : List Content}

theorem shows_child {tag : Tag} {props : List (String × Json)} (hcs : Content.AllShow h ks cs) :
    (child tag props cs).Shows (h + 2) (.plain tag :: ks) :=
  .single (n := node tag props cs) rfl hcs.ofChildren

theorem shows_childless {tag : Tag} {props : List (String × Json)} :
    (child tag props []).Shows 2 [.plain tag] := shows_child .nil

theorem shows_caption {tag : Tag} {props : List (String × Json)} {c : Content} (hc : c.kinds = []) :
    (child tag props [c]).Shows 2 [.plain tag] := shows_child (.one (.of_nil hc))

theorem allShow_map {α : Type} {f : α → Content} {k : Kind} (hf : ∀ a, (f a).Shows h [k])
    (as : List α) : Content.AllShow h (List.replicate as.length k) (as.map f) := by
  induction as with
  | nil => exact .nil
  | cons a rest ih => exact .cons (hf a) ih

end

theorem shows_titleLine (title : Json) : (titleLine title).Shows 2 [.plain .h3] :=
  shows_caption (Content.kinds_ofJson title)

theorem shows_option {j : Json} {c : Content} (h : option j = .ok c) :
    c.Shows 2 [.plain .option] := by
  unfold option at h
  split at h
  · obtain rfl := Except.ok.inj h
    exact shows_caption rfl
  · obtain ⟨ms, -, h⟩ := Except.of_bind_ok h
    obtain rfl := Except.ok.inj h
    exact shows_caption rfl

theorem shows_control {f : FieldSpec} {n : Node} (h : control f = .ok n) :
    ∃ o : ControlOutline, (Content.single n).Shows 4 (o.kinds f.name) := by
  unfold control at h
  dsimp only at h
  split at h
  · obtain rfl := Except.ok.inj h
    exact ⟨.textarea, .single rfl (.of_nil rfl)⟩
  · split at h
    · obtain ⟨items, -, h⟩ := Except.of_bind_ok h
      obtain ⟨options, hoptions, h⟩ := Except.of_bind_ok h
      obtain rfl := Except.ok.inj h
      have hall : List.Forall₂ (fun _ c => Content.Shows 2 [.plain .option] c) items options :=
        (Except.forall₂_of_mapM_ok hoptions).imp fun _ _ => shows_option
      have hkinds : Content.AllShow 2 (items.flatMap fun _ => [.plain .option]) options :=
        .of_forall₂ hall
      rw [← List.map_eq_flatMap, List.map_const'] at hkinds
      exact ⟨.select items.length, .single rfl hkinds.many⟩
    · obtain rfl := Except.ok.inj h
      exact ⟨.input, .single rfl (.of_nil rfl)⟩

theorem shows_field {j : Json} {part : List Content} (h : field j = .ok part) :
    ∃ o : FieldOutline, o.name = FieldSpec.nameOf j ∧ Content.AllShow 4 o.kinds part := by
  unfold field at h
  obtain ⟨f, hf, h⟩ := Except.of_bind_ok h
  obtain ⟨n, hn, h⟩ := Except.of_bind_ok h
  obtain rfl := Except.ok.inj h
  obtain ⟨control, hcontrol⟩ := shows_control hn
  refine ⟨⟨f.name, f.required, control⟩, (FieldSpec.nameOf_of_ofJson hf).symm, ?_⟩
  have hmarker : (if f.required = true then
      child .span (className "text-red-500 ml-1") [.text "*"] else .empty : Content).Shows 2
      (if f.required then [.plain .span] else []) := by
    split
    · exact shows_caption rfl
    · exact .of_nil rfl
  have hlabel (props : List (String × Json)) : (child .label props [Content.ofJson f.label,
      if f.required = true then child .span (className "text-red-500 ml-1") [.text "*"]
      else .empty]).Shows 4 (.plain .label :: if f.required then [.plain .span] else []) :=
    shows_child (.cons (.ofJson f.label) (.one hmarker))
  exact .cons (hlabel _) (.cons hcontrol (.one (shows_childless.mono (by omega))))

theorem shows_submitButton (label : Json) : (Content.single (submitButton label)).Shows 4
    [⟨Tag.button.name, Dict.ofList [("onClick", submitEvent)], ∅⟩] :=
  .single rfl (.ofJson label)

theorem shows_chartLabel (kind : Json) : (chartLabel kind).Shows 2 [.plain .p] := shows_caption rfl

theorem shows_card {j : Json} {c : Content} (h : card j = .ok c) :
    ∃ chart, c.Shows 6 ((cardTags chart).map .plain) := by
  unfold card at h
  obtain ⟨ms, -, h⟩ := Except.of_bind_ok h
  obtain rfl := Except.ok.inj h
  have hheading (props : List (String × Json)) :
      (child .h4 props [Content.ofJson (Json.member ms "title")]).Shows 4 [.plain .h4] :=
    (shows_caption (Content.kinds_ofJson _)).mono (by omega)
  split
  · exact ⟨true, shows_child (.cons (hheading _) (.one (shows_child (.one (shows_chartLabel _)))))⟩
  · exact ⟨false, shows_child (.cons (hheading _)
      (.one ((shows_caption (Content.kinds_ofJson _)).mono (by omega))))⟩

theorem shows_row {j : Json} {c : Content} (h : row j = .ok c) :
    ∃ n, (∃ cells, j.items = .ok cells ∧ n = cells.length) ∧
      c.Shows 5 ((rowTags n).map .plain) := by
  unfold row at h
  obtain ⟨cells, hcells, h⟩ := Except.of_bind_ok h
  obtain rfl := Except.ok.inj h
  have hcell (j : Json) : (bodyCell j).Shows 2 [.plain .td] := shows_caption rfl
  have hkinds : (rowTags cells.length).map Kind.plain =
      .plain .tr :: List.replicate cells.length (.plain .td) := by
    rw [rowTags, List.map_cons, List.map_replicate]
  refine ⟨cells.length, ⟨cells, hcells, rfl⟩, ?_⟩
  rw [hkinds]
  exact shows_child (.one (allShow_map hcell cells).many)

/-! ## Trees -/

/-- The nodes of the tree are those of an outline, and there are levels to spare. -/
def HasOutline (name : Json) (ps : Parameters) (root : Node) : Prop :=
  ∃ o : Outline, o.Fits name ps ∧ (Content.single root).Shows 20 o.kinds

section

variable {ps : Parameters} {root : Node}

theorem shows_formRoot {ks : List Kind} {parts : List (List Content)} (title label : Json)
    (hparts : Content.AllShow 4 ks parts.flatten) :
    (Content.single (formRoot title parts label)).Shows 8
      (.plain .div :: .plain .h3 :: ⟨Tag.form.name, Dict.ofList [("onSubmit", formEvent)], ∅⟩ ::
        (ks ++ [⟨Tag.button.name, Dict.ofList [("onClick", submitEvent)], ∅⟩])) := by
  have hitems := (hparts.append (.one (shows_submitButton label))).many
  have hbody : (Content.single (formBody parts label)).Shows 6 _ := .single rfl hitems
  exact shows_child (.cons ((shows_titleLine title).mono (by omega)) (.one hbody))

theorem hasOutline_form (h : form ps = .ok root) : HasOutline (.str "form") ps root := by
  obtain ⟨items, title, parts, label, hitems, hparts, rfl⟩ := form_eq h
  obtain ⟨fields, hnames, hfields⟩ :=
    forall₂_between (fun _ _ h => shows_field h) (Except.forall₂_of_mapM_ok hparts)
  have hsame : fields.map FieldOutline.name = items.map FieldSpec.nameOf := by
    rw [← List.forall₂_eq_eq_eq, List.forall₂_map_left_iff, List.forall₂_map_right_iff]
    exact hnames.flip
  have hroot := shows_formRoot title label (.flatten_of_forall₂ hfields)
  exact ⟨.form fields, ⟨rfl, items, hitems, hsame⟩, hroot.mono (by omega)⟩

theorem hasOutline_dashboard (h : dashboard ps = .ok root) :
    HasOutline (.str "dashboard") ps root := by
  unfold dashboard at h
  obtain ⟨items, hitems, h⟩ := Except.of_bind_ok h
  obtain ⟨contents, hcontents, h⟩ := Except.of_bind_ok h
  obtain rfl := Except.ok.inj h
  have hcard (j : Json) (c : Content) (h : card j = .ok c) :
      ∃ chart, True ∧ c.Shows 6 ((cardTags chart).map .plain) :=
    (shows_card h).imp fun _ hc => ⟨trivial, hc⟩
  obtain ⟨cards, hcards, hshown⟩ := forall₂_between hcard (Except.forall₂_of_mapM_ok hcontents)
  have hall : Content.AllShow 6 ((cards.flatMap cardTags).map .plain) contents := by
    rw [List.map_flatMap]
    exact .of_forall₂ hshown
  refine ⟨.dashboard cards, ⟨rfl, items, hitems, hcards.length_eq.symm⟩,
    Content.Shows.mono (h := 11) ?_ (by omega)⟩
  exact shows_child (.cons ((shows_titleLine _).mono (by omega))
    (.one (shows_child (.one hall.many))))

theorem hasOutline_chart (ps : Parameters) : HasOutline (.str "chart") ps (chart ps) := by
  refine ⟨.chart, rfl, Content.Shows.mono (h := 6) ?_ (by omega)⟩
  exact shows_child (.cons ((shows_titleLine _).mono (by omega))
    (.cons (shows_child (.one (shows_chartLabel _)))
      (.one (shows_child (.cons (shows_caption rfl) (.one (shows_caption rfl)))))))

theorem hasOutline_table (h : table ps = .ok root) : HasOutline (.str "table") ps root := by
  unfold table at h
  obtain ⟨headers, hheaders, h⟩ := Except.of_bind_ok h
  obtain ⟨items, hitems, h⟩ := Except.of_bind_ok h
  obtain ⟨contents, hcontents, h⟩ := Except.of_bind_ok h
  obtain rfl := Except.ok.inj h
  obtain ⟨rows, hrows, hshown⟩ :=
    forall₂_between (fun _ _ h => shows_row h) (Except.forall₂_of_mapM_ok hcontents)
  have hheader (j : Json) : (headerCell j).Shows 2 [.plain .th] := shows_caption rfl
  have hheaders' : Content.AllShow 2 ((List.replicate headers.length Tag.th).map .plain)
      (headers.map headerCell) := by
    rw [List.map_replicate]
    exact allShow_map hheader headers
  have hrows' : Content.AllShow 5 ((rows.flatMap rowTags).map .plain) contents := by
    rw [List.map_flatMap]
    exact .of_forall₂ hshown
  have hhead (props : List (String × Json)) :
      (child .thead props [child .tr [] [.many (headers.map headerCell)]]).Shows 8 _ :=
    (shows_child (.one (shows_child (.one hheaders'.many)))).mono (by omega)
  have hbody (props : List (String × Json)) : (child .tbody props [.many contents]).Shows 8 _ :=
    shows_child (.one hrows'.many)
  have hkinds : (Outline.table headers.length rows).kinds =
      .plain .div :: .plain .h3 :: .plain .div :: .plain .table ::
        ((Tag.thead :: .tr :: List.replicate headers.length .th).map .plain ++
          (Tag.tbody :: rows.flatMap rowTags).map .plain) := by
    rw [Outline.kinds, List.map_append, List.map_append, List.append_assoc]
    rfl
  refine ⟨.table headers.length rows, ⟨rfl, headers, items, hheaders, rfl, hitems, hrows⟩,
    Content.Shows.mono (h := 14) ?_ (by omega)⟩
  rw [hkinds]
  exact shows_child (.cons ((shows_titleLine _).mono (by omega))
    (.one (shows_child (.one (shows_child (.cons (hhead _) (.one (hbody _))))))))

theorem hasOutline_unknown {name : Json} (h : Archetype.ofName? name = none) :
    HasOutline name ps (unknown name) :=
  have hcaption : Content.Shows 2 [.plain .p] _ := shows_caption rfl
  ⟨.unknown, h, hcaption.mono (by omega)⟩

end

/-- **The nodes of every tree that can be asked for are those of an outline.** -/
theorem hasOutline_tree {name parameters : Json} {root : Node}
    (h : tree name parameters = .ok root) :
    ∃ ps, parameters.toDictOrEmpty = .ok ps ∧ HasOutline name ps root := by
  unfold tree at h
  obtain ⟨ps, hps, h⟩ := Except.of_bind_ok h
  refine ⟨ps, hps, ?_⟩
  split at h
  · next hname => exact Archetype.name_of_ofName? hname ▸ hasOutline_form h
  · next hname => exact Archetype.name_of_ofName? hname ▸ hasOutline_dashboard h
  · next hname =>
    obtain rfl := Except.ok.inj h
    exact Archetype.name_of_ofName? hname ▸ hasOutline_chart ps
  · next hname => exact Archetype.name_of_ofName? hname ▸ hasOutline_table h
  · next hname =>
    obtain rfl := Except.ok.inj h
    exact hasOutline_unknown hname

/-! ## What an outline has no room for -/

/-- The tags that are ever written. -/
def tags : List Tag :=
  [.div, .h3, .h4, .p, .pre, .label, .span, .textarea, .select, .option, .input, .form, .button,
   .table, .thead, .tbody, .tr, .th, .td]

/-- The kinds of nodes that are ever written. -/
inductive Written : Kind → Prop where
  | plain {tag : Tag} : tag ∈ tags → Written (.plain tag)
  | control {tag : Tag} (name : String) : tag ∈ tags → Written (controlKind tag name)
  | form : Written ⟨Tag.form.name, Dict.ofList [("onSubmit", formEvent)], ∅⟩
  | button : Written ⟨Tag.button.name, Dict.ofList [("onClick", submitEvent)], ∅⟩

theorem FieldOutline.written (f : FieldOutline) : ∀ k ∈ f.kinds, Written k := by
  have hcontrol : ∀ k ∈ f.control.kinds f.name, Written k := by
    cases f.control with
    | textarea => exact List.forall_mem_singleton.mpr (.control f.name (by decide))
    | select options =>
      refine List.forall_mem_cons.mpr ⟨.control f.name (by decide), fun k hk => ?_⟩
      rw [List.eq_of_mem_replicate hk]
      exact .plain (by decide)
    | input => exact List.forall_mem_singleton.mpr (.control f.name (by decide))
  have hmarker : ∀ k ∈ (if f.marked then [Kind.plain .span] else []), Written k := by
    split
    · exact List.forall_mem_singleton.mpr (.plain (by decide))
    · exact List.forall_mem_nil _
  exact List.forall_mem_append.mpr ⟨List.forall_mem_cons.mpr ⟨.plain (by decide), hmarker⟩,
    List.forall_mem_append.mpr ⟨hcontrol, List.forall_mem_singleton.mpr (.plain (by decide))⟩⟩

/-- Only a form has nodes that do something. -/
theorem Outline.kinds_eq_plain {o : Outline} {name : Json} {ps : Parameters} (h : o.Fits name ps)
    (hname : name ≠ .str "form") : ∃ ts : List Tag, ts ⊆ tags ∧ o.kinds = ts.map .plain := by
  cases o with
  | form fields => exact absurd h.1 hname
  | dashboard cards =>
    refine ⟨_, List.append_subset.mpr ⟨by decide, fun t ht => ?_⟩, rfl⟩
    obtain ⟨chart, -, ht⟩ := List.mem_flatMap.mp ht
    have hcard : ∀ chart, cardTags chart ⊆ tags := by decide
    exact hcard chart ht
  | chart => exact ⟨_, by decide, rfl⟩
  | table headers rows =>
    have hmany {t : Tag} (ht : t ∈ tags) (n : Nat) : List.replicate n t ⊆ tags :=
      fun t' ht' => List.eq_of_mem_replicate ht' ▸ ht
    refine ⟨_, List.append_subset.mpr ⟨List.append_subset.mpr ⟨by decide, ?_⟩, ?_⟩, rfl⟩
    · exact List.cons_subset.mpr ⟨by decide, List.cons_subset.mpr ⟨by decide, hmany (by decide) _⟩⟩
    · refine List.cons_subset.mpr ⟨by decide, fun t ht => ?_⟩
      obtain ⟨n, -, ht⟩ := List.mem_flatMap.mp ht
      exact List.cons_subset.mpr ⟨by decide, hmany (by decide) n⟩ ht
  | unknown => exact ⟨[.p], by decide, rfl⟩

/-- What is asked for as a form is one. -/
theorem Outline.eq_form_of_fits {o : Outline} {ps : Parameters} (h : o.Fits (.str "form") ps) :
    ∃ fields, o = form fields := by
  cases o with
  | form fields => exact ⟨fields, rfl⟩
  | dashboard cards => exact absurd h.1 (by decide)
  | chart => exact absurd h (by decide : Json.str "form" ≠ .str "chart")
  | table headers rows => exact absurd h.1 (by decide)
  | unknown => exact absurd h (by decide : Archetype.ofName? (.str "form") ≠ none)

theorem Outline.written {o : Outline} {name : Json} {ps : Parameters} (h : o.Fits name ps) :
    ∀ k ∈ o.kinds, Written k := by
  by_cases hname : name = .str "form"
  · subst hname
    obtain ⟨fields, rfl⟩ := eq_form_of_fits h
    refine List.forall_mem_cons.mpr ⟨.plain (by decide), List.forall_mem_cons.mpr
      ⟨.plain (by decide), List.forall_mem_cons.mpr ⟨.form, List.forall_mem_append.mpr
        ⟨fun k hk => ?_, List.forall_mem_singleton.mpr .button⟩⟩⟩⟩
    obtain ⟨f, -, hk⟩ := List.mem_flatMap.mp hk
    exact f.written k hk
  · obtain ⟨ts, hts, hkinds⟩ := Outline.kinds_eq_plain h hname
    intro k hk
    rw [hkinds] at hk
    obtain ⟨t, ht, rfl⟩ := List.mem_map.mp hk
    exact .plain (hts ht)

end Build

end AssistantUI
