import AssistantUI.Agent
import AssistantUI.Proofs.Build.Envelope

/-!
# What is built can be sent

JSON has no infinities and no NaN, though a parameter that comes from code at hand may hold them.
What is built of parameters without them has none either: a prop is a text, a truth value, a small
number of the builder's own or a part of a parameter, and everything else that is shown of a
parameter is text. So only what is put in can be in the way of sending what comes out.

Where nothing can be built, the reason is a value of the wrong kind. Only the service itself refuses
a request, so the two cannot be mistaken for one another.
-/

namespace AssistantUI

namespace Json

theorem areExpressible_iff {items : List Json} :
    areExpressible items = true ↔ ∀ j ∈ items, j.isExpressible = true := by
  induction items with
  | nil => simp [areExpressible]
  | cons j rest ih => rw [areExpressible, Bool.and_eq_true, ih, List.forall_mem_cons]

theorem membersExpressible_iff {members : List (String × Json)} :
    membersExpressible members = true ↔ ∀ e ∈ members, e.2.isExpressible = true := by
  induction members with
  | nil => simp [membersExpressible]
  | cons e rest ih => rw [membersExpressible, Bool.and_eq_true, ih, List.forall_mem_cons]

/-- Members whose values can be sent. -/
def AllExpressible (members : List (String × Json)) : Prop :=
  ∀ e ∈ members, e.2.isExpressible = true

namespace AllExpressible

theorem nil : AllExpressible [] := List.forall_mem_nil _

theorem cons {k : String} {j : Json} {rest : List (String × Json)} (hj : j.isExpressible = true)
    (hrest : AllExpressible rest) : AllExpressible ((k, j) :: rest) :=
  List.forall_mem_cons.mpr ⟨hj, hrest⟩

theorem ofList {members : List (String × Json)} (h : AllExpressible members) :
    AllExpressible (Dict.ofList members).entries := by
  intro e he
  obtain ⟨e', he', heq⟩ := List.mem_map.mp (Dict.value_of_mem_ofList he)
  rw [← heq]
  exact h e' he'

end AllExpressible

theorem isExpressible_arr {items : List Json} :
    (arr items).isExpressible = true ↔ ∀ j ∈ items, j.isExpressible = true := by
  rw [isExpressible, areExpressible_iff]

theorem isExpressible_obj {members : List (String × Json)} :
    (obj members).isExpressible = true ↔ AllExpressible members := by
  rw [isExpressible, membersExpressible_iff]
  exact Iff.rfl

theorem isExpressible_orElse {a b : Json} (ha : a.isExpressible = true)
    (hb : b.isExpressible = true) : (a.orElse b).isExpressible = true := by
  unfold orElse
  split
  · exact ha
  · exact hb

theorem isExpressible_member {members : List (String × Json)} (h : AllExpressible members)
    (k : String) :
    (member members k).isExpressible = true := by
  unfold member
  cases hfind : Dict.find k members with
  | none => rfl
  | some j =>
    obtain ⟨e, he, rfl⟩ := List.mem_map.mp (Dict.value_of_find hfind)
    exact h e he

theorem isExpressible_of_items {j : Json} {items : List Json} (hj : j.isExpressible = true)
    (h : j.items = .ok items) : ∀ i ∈ items, i.isExpressible = true := by
  cases j with
  | arr =>
    obtain rfl := Except.ok.inj h
    exact isExpressible_arr.mp hj
  | str s =>
    obtain rfl := Except.ok.inj h
    intro i hi
    obtain ⟨c, -, rfl⟩ := List.mem_map.mp hi
    rfl
  | obj members =>
    obtain rfl := Except.ok.inj h
    intro i hi
    obtain ⟨e, -, rfl⟩ := List.mem_map.mp hi
    rfl
  | _ => cases h

theorem allExpressible_of_members {j : Json} {name : String} {members : List (String × Json)}
    (hj : j.isExpressible = true) (h : j.members name = .ok members) :
    AllExpressible members := by
  cases j with
  | obj =>
    obtain rfl := Except.ok.inj h
    exact isExpressible_obj.mp hj
  | _ => cases h

end Json

/-! ## Trees -/

/-- A content that can be sent. -/
def Content.IsExpressible (c : Content) : Prop := c.toJson.isExpressible = true

/-- Contents that can be sent. -/
def Content.AreExpressible (cs : List Content) : Prop := ∀ c ∈ cs, c.IsExpressible

namespace Content

namespace AreExpressible

variable {c : Content} {cs ds : List Content}

theorem nil : AreExpressible [] := List.forall_mem_nil _

theorem cons (hc : c.IsExpressible) (hcs : AreExpressible cs) : AreExpressible (c :: cs) :=
  List.forall_mem_cons.mpr ⟨hc, hcs⟩

theorem one (hc : c.IsExpressible) : AreExpressible [c] := .cons hc .nil

theorem append (hcs : AreExpressible cs) (hds : AreExpressible ds) : AreExpressible (cs ++ ds) :=
  List.forall_mem_append.mpr ⟨hcs, hds⟩

/-- What is put together step by step can be sent if every step gives what can. -/
theorem of_mapM {α : Type} {f : α → Except Fault Content} {as : List α} (h : as.mapM f = .ok cs)
    (hf : ∀ a ∈ as, ∀ c, f a = .ok c → c.IsExpressible) : AreExpressible cs := by
  intro c hc
  obtain ⟨i, hi⟩ := List.getElem?_of_mem hc
  obtain ⟨a, ha, hfa⟩ := (Except.of_mapM_ok h).2 i c hi
  exact hf a (List.mem_of_getElem? ha) c hfa

theorem many (h : AreExpressible cs) : (Content.many cs).IsExpressible := by
  have hlist : toJsonList cs = cs.map toJson := by
    clear h
    induction cs with
    | nil => rfl
    | cons c rest ih => rw [toJsonList, ih, List.map_cons]
  unfold IsExpressible
  rw [toJson, hlist, Json.isExpressible_arr]
  exact List.forall_mem_map.mpr h

theorem ofChildren (h : AreExpressible cs) : (Content.ofChildren cs).IsExpressible := by
  match cs with
  | [] => rfl
  | [c] => exact h c List.mem_cons_self
  | c :: d :: rest => exact h.many

end AreExpressible

theorem IsExpressible.toMember {c : Content} (h : c.IsExpressible) :
    Json.AllExpressible c.toMember := by
  unfold IsExpressible at h
  cases c with
  | empty => exact .nil
  | text s => exact .cons rfl .nil
  | single n => exact .cons h .nil
  | many items => exact .cons h .nil

mutual

/-- What is shown of a plain value is text. -/
theorem isExpressible_ofJson (j : Json) : (ofJson j).IsExpressible := by
  match j with
  | .null | .bool _ | .int _ | .float _ | .str _ | .obj _ => rfl
  | .arr items => exact (areExpressible_ofJsonList items).many

theorem areExpressible_ofJsonList (items : List Json) : AreExpressible (ofJsonList items) := by
  match items with
  | [] => exact .nil
  | j :: rest => exact .cons (isExpressible_ofJson j) (areExpressible_ofJsonList rest)

end

end Content

theorem allExpressible_nonemptyMember (k : String) {d : Dict String Json}
    (h : Json.AllExpressible d.entries) : Json.AllExpressible (nonemptyMember k d) := by
  unfold nonemptyMember
  split
  · exact .nil
  · exact .cons (Json.isExpressible_obj.mpr h) .nil

/-- A node can be sent if its parts can; its bindings are texts in any case. -/
theorem Node.isExpressible {n : Node} (hprops : Json.AllExpressible n.props.entries)
    (hchildren : n.children.IsExpressible)
    (hevents : ∀ e ∈ n.events.entries, e.2.toJson.isExpressible = true) :
    (Content.single n).IsExpressible := by
  cases n with
  | mk type props children events bindings =>
    have hevents' : Json.AllExpressible (events.map EventDescriptor.toJson).entries := by
      rw [Dict.entries_map]
      exact List.forall_mem_map.mpr hevents
    have hbindings : Json.AllExpressible (bindings.map Json.str).entries := by
      rw [Dict.entries_map]
      exact List.forall_mem_map.mpr fun _ _ => rfl
    have htype : Json.AllExpressible [("type", .str type)] := .cons rfl .nil
    show (Node.toJson _).isExpressible = true
    rw [Node.toJson, Json.isExpressible_obj]
    simp only [Json.AllExpressible, List.forall_mem_append]
    exact ⟨⟨⟨⟨htype, allExpressible_nonemptyMember _ hprops⟩, hchildren.toMember⟩,
      allExpressible_nonemptyMember _ hevents'⟩, allExpressible_nonemptyMember _ hbindings⟩

/-! ## Parameters -/

/-- Parameters that can be sent. -/
def Parameters.AreExpressible (ps : Parameters) : Prop := ∀ k, (ps.value k).isExpressible = true

theorem Parameters.AreExpressible.valueOr {ps : Parameters} (h : ps.AreExpressible) (k : String)
    {default : Json} (hdefault : default.isExpressible = true) :
    (ps.valueOr k default).isExpressible = true := by
  have hvalue := h k
  unfold Parameters.valueOr
  split
  · exact hdefault
  · exact hvalue

theorem Parameters.areExpressible_of_toDictOrEmpty {members : List (String × Json)}
    {ps : Parameters} (hmembers : Json.AllExpressible members)
    (h : (Json.obj members).toDictOrEmpty = .ok ps) : ps.AreExpressible := by
  intro k
  have hps : ps = Dict.ofList (members.map fun e => (Key.text e.1, e.2)) := by
    cases members with
    | nil => exact (Except.ok.inj h).symm
    | cons e rest => exact (Except.ok.inj h).symm
  subst hps
  unfold Parameters.value
  cases hget : (Dict.ofList (members.map fun e => (Key.text e.1, e.2))).get? (Key.text k) with
  | none => rfl
  | some j =>
    obtain ⟨e, he, rfl⟩ := List.mem_map.mp (Dict.value_of_get?_ofList hget)
    obtain ⟨e', he', rfl⟩ := List.mem_map.mp he
    exact hmembers e' he'

namespace Build

/-! ## Nodes one by one -/

section

variable {tag : Tag} {props : List (String × Json)} {cs : List Content}

theorem isExpressible_child (hprops : Json.AllExpressible props)
    (hcs : Content.AreExpressible cs) : (child tag props cs).IsExpressible :=
  Node.isExpressible hprops.ofList hcs.ofChildren fun _ he => absurd he List.not_mem_nil

/-- Most nodes have a class and nothing else. -/
theorem isExpressible_styled {s : String} (hcs : Content.AreExpressible cs) :
    (child tag (className s) cs).IsExpressible := isExpressible_child (.cons rfl .nil) hcs

end

theorem isExpressible_text (s : String) : (Content.text s).IsExpressible := rfl

theorem isExpressible_titleLine (title : Json) : (titleLine title).IsExpressible :=
  isExpressible_styled (.one (Content.isExpressible_ofJson title))

theorem isExpressible_option {j : Json} {c : Content} (hj : j.isExpressible = true)
    (h : option j = .ok c) : c.IsExpressible := by
  unfold option at h
  split at h
  · obtain rfl := Except.ok.inj h
    exact isExpressible_child (.cons rfl .nil) (.one (isExpressible_text _))
  · obtain ⟨ms, hms, h⟩ := Except.of_bind_ok h
    obtain rfl := Except.ok.inj h
    have hvalue := Json.isExpressible_member (Json.allExpressible_of_members hj hms) "value"
    exact isExpressible_child (.cons hvalue .nil) (.one (isExpressible_text _))

theorem allExpressible_fieldSpec {j : Json} {f : FieldSpec} (hj : j.isExpressible = true)
    (h : FieldSpec.ofJson j = .ok f) : Json.AllExpressible f := by
  unfold FieldSpec.ofJson at h
  split at h
  · obtain rfl := Except.ok.inj h
    exact .cons rfl .nil
  · exact Json.allExpressible_of_members hj h

theorem isExpressible_control {f : FieldSpec} {n : Node} (hf : Json.AllExpressible f)
    (h : control f = .ok n) : (Content.single n).IsExpressible := by
  have hmember := Json.isExpressible_member hf
  have hplaceholder : f.placeholder.isExpressible = true :=
    Json.isExpressible_orElse (hmember _) rfl
  have hchange : ∀ e ∈ (Dict.ofList [("onChange", changeEvent f.name)]).entries,
      e.2.toJson.isExpressible = true := List.forall_mem_singleton.mpr rfl
  unfold control at h
  dsimp only at h
  split at h
  · obtain rfl := Except.ok.inj h
    have hrows : ((Json.member f "rows").orElse (.int 4)).isExpressible = true :=
      Json.isExpressible_orElse (hmember _) rfl
    refine Node.isExpressible (.ofList ?_) rfl hchange
    exact .cons rfl (.cons rfl (.cons hplaceholder (.cons rfl (.cons rfl (.cons hrows .nil)))))
  · split at h
    · obtain ⟨items, hitems, h⟩ := Except.of_bind_ok h
      obtain ⟨options, hoptions, h⟩ := Except.of_bind_ok h
      obtain rfl := Except.ok.inj h
      have hchoices : f.options.isExpressible = true :=
        Json.isExpressible_orElse (hmember _) rfl
      have hall : Content.AreExpressible options := .of_mapM hoptions fun j hj _ =>
        isExpressible_option (Json.isExpressible_of_items hchoices hitems j hj)
      refine Node.isExpressible (.ofList ?_) hall.many hchange
      exact .cons rfl (.cons rfl (.cons rfl (.cons rfl .nil)))
    · obtain rfl := Except.ok.inj h
      have htype : ((Json.member f "type").orElse (.str "text")).isExpressible = true :=
        Json.isExpressible_orElse (hmember _) rfl
      refine Node.isExpressible (.ofList ?_) rfl hchange
      exact .cons rfl (.cons htype (.cons rfl (.cons hplaceholder (.cons rfl (.cons rfl .nil)))))

theorem areExpressible_field {j : Json} {part : List Content} (hj : j.isExpressible = true)
    (h : field j = .ok part) : Content.AreExpressible part := by
  unfold field at h
  obtain ⟨f, hf, h⟩ := Except.of_bind_ok h
  obtain ⟨n, hn, h⟩ := Except.of_bind_ok h
  obtain rfl := Except.ok.inj h
  have hcontrol := isExpressible_control (allExpressible_fieldSpec hj hf) hn
  have hmarker : (if f.required = true then
      child .span (className "text-red-500 ml-1") [.text "*"]
      else .empty : Content).IsExpressible := by
    split
    · exact isExpressible_styled (.one (isExpressible_text _))
    · rfl
  have hlabel : (child .label [("htmlFor", .str ("field-" ++ f.name)),
      ("className", .str "block text-sm font-medium text-gray-700 mb-1")]
      [Content.ofJson f.label, _]).IsExpressible :=
    isExpressible_child (.cons rfl (.cons rfl .nil))
      (.cons (Content.isExpressible_ofJson _) (.one hmarker))
  exact .cons hlabel (.cons hcontrol (.one (isExpressible_styled .nil)))

theorem isExpressible_chartLabel (kind : Json) : (chartLabel kind).IsExpressible :=
  isExpressible_styled (.one (isExpressible_text _))

theorem isExpressible_card {j : Json} {c : Content} (h : card j = .ok c) : c.IsExpressible := by
  unfold card at h
  obtain ⟨ms, -, h⟩ := Except.of_bind_ok h
  obtain rfl := Except.ok.inj h
  have hheading (s : String) (title : Json) :
      (child .h4 (className s) [Content.ofJson title]).IsExpressible :=
    isExpressible_styled (.one (Content.isExpressible_ofJson title))
  refine isExpressible_styled (.cons (hheading _ _) (.one ?_))
  split
  · exact isExpressible_styled (.one (isExpressible_chartLabel _))
  · exact isExpressible_child .nil (.one (Content.isExpressible_ofJson _))

theorem isExpressible_row {j : Json} {c : Content} (h : row j = .ok c) : c.IsExpressible := by
  unfold row at h
  obtain ⟨cells, -, h⟩ := Except.of_bind_ok h
  obtain rfl := Except.ok.inj h
  have hcells : Content.AreExpressible (cells.map bodyCell) :=
    List.forall_mem_map.mpr fun _ _ => isExpressible_styled (.one (isExpressible_text _))
  exact isExpressible_child .nil (.one hcells.many)

/-! ## Trees of the archetypes -/

section

variable {ps : Parameters} {root : Node}

theorem isExpressible_form (hps : ps.AreExpressible) (h : form ps = .ok root) :
    (Content.single root).IsExpressible := by
  obtain ⟨items, title, parts, label, hitems, hparts, rfl⟩ := form_eq h
  have hfields : Content.AreExpressible parts.flatten := by
    intro c hc
    obtain ⟨part, hpart, hc⟩ := List.mem_flatten.mp hc
    obtain ⟨i, hi⟩ := List.getElem?_of_mem hpart
    obtain ⟨j, hj, hfield⟩ := (Except.of_mapM_ok hparts).2 i part hi
    have hitem := Json.isExpressible_of_items (hps.valueOr "fields" rfl) hitems j
      (List.mem_of_getElem? hj)
    exact areExpressible_field hitem hfield c hc
  have hbutton : (Content.single (submitButton label)).IsExpressible :=
    Node.isExpressible (.ofList (.cons rfl (.cons rfl .nil))) (Content.isExpressible_ofJson label)
      (List.forall_mem_singleton.mpr rfl)
  have hbody : (Content.single (formBody parts label)).IsExpressible :=
    Node.isExpressible (.ofList (.cons rfl .nil)) (hfields.append (.one hbutton)).many
      (List.forall_mem_singleton.mpr rfl)
  exact isExpressible_styled (.cons (isExpressible_titleLine title) (.one hbody))

theorem isExpressible_dashboard (h : dashboard ps = .ok root) :
    (Content.single root).IsExpressible := by
  unfold dashboard at h
  obtain ⟨items, -, h⟩ := Except.of_bind_ok h
  obtain ⟨cards, hcards, h⟩ := Except.of_bind_ok h
  obtain rfl := Except.ok.inj h
  have hall : Content.AreExpressible cards := .of_mapM hcards fun _ _ _ => isExpressible_card
  exact isExpressible_styled (.cons (isExpressible_titleLine _)
    (.one (isExpressible_styled (.one hall.many))))

theorem isExpressible_chart (ps : Parameters) : (Content.single (chart ps)).IsExpressible := by
  have hcaption {tag : Tag} (s t : String) : (child tag (className s) [.text t]).IsExpressible :=
    isExpressible_styled (.one (isExpressible_text t))
  have hbox (s : String) (kind : Json) :
      (child .div (className s) [chartLabel kind]).IsExpressible :=
    isExpressible_styled (.one (isExpressible_chartLabel kind))
  exact isExpressible_styled (.cons (isExpressible_titleLine _) (.cons (hbox _ _)
    (.one (isExpressible_styled (.cons (hcaption _ _) (.one (hcaption _ _)))))))

theorem isExpressible_table (h : table ps = .ok root) : (Content.single root).IsExpressible := by
  unfold table at h
  obtain ⟨headers, -, h⟩ := Except.of_bind_ok h
  obtain ⟨items, -, h⟩ := Except.of_bind_ok h
  obtain ⟨rows, hrows, h⟩ := Except.of_bind_ok h
  obtain rfl := Except.ok.inj h
  have hrow : Content.AreExpressible rows := .of_mapM hrows fun _ _ _ => isExpressible_row
  have hheader : Content.AreExpressible (headers.map headerCell) :=
    List.forall_mem_map.mpr fun _ _ =>
      isExpressible_child (.cons rfl (.cons rfl .nil)) (.one (isExpressible_text _))
  have hhead (s : String) : (child .thead (className s)
      [child .tr [] [.many (headers.map headerCell)]]).IsExpressible :=
    isExpressible_styled (.one (isExpressible_child .nil (.one hheader.many)))
  have hbody (s : String) : (child .tbody (className s) [.many rows]).IsExpressible :=
    isExpressible_styled (.one hrow.many)
  exact isExpressible_styled (.cons (isExpressible_titleLine _) (.one (isExpressible_styled
    (.one (isExpressible_styled (.cons (hhead _) (.one (hbody _))))))))

end

/-- **What is built of parameters that can be sent can be sent.** -/
theorem isExpressible_envelope {name : Json} {members : List (String × Json)} {j : Json}
    (hmembers : Json.AllExpressible members)
    (h : envelope name (.obj members) = .ok j) : j.isExpressible = true := by
  obtain ⟨root, htree, h⟩ := Except.of_bind_ok h
  obtain rfl := Except.ok.inj h
  have hroot : (Content.single root).IsExpressible := by
    obtain ⟨ps, hps, htree⟩ := Except.of_bind_ok htree
    have hexpressible := Parameters.areExpressible_of_toDictOrEmpty hmembers hps
    split at htree
    · exact isExpressible_form hexpressible htree
    · exact isExpressible_dashboard htree
    · obtain rfl := Except.ok.inj htree
      exact isExpressible_chart ps
    · exact isExpressible_table htree
    · obtain rfl := Except.ok.inj htree
      exact isExpressible_styled (.one (isExpressible_text _))
  exact Json.isExpressible_obj.mpr (.cons rfl (.cons hroot .nil))

end Build

/-! ## Failures -/

/-- The step may fail, but not by refusing a request. -/
def NeverRefuses {α : Type} (x : Except Fault α) : Prop :=
  ∀ status body, x ≠ .error (.refused status body)

namespace NeverRefuses

variable {α β : Type}

theorem ok (a : α) : NeverRefuses (.ok a) := nofun

theorem bind {x : Except Fault α} {f : α → Except Fault β} (hx : NeverRefuses x)
    (hf : ∀ a, NeverRefuses (f a)) : NeverRefuses (x >>= f) := by
  intro status body h
  cases x with
  | error e => exact hx status body (congrArg Except.error (Except.error.inj h))
  | ok a => exact hf a status body h

theorem mapM {f : α → Except Fault β} (hf : ∀ a, NeverRefuses (f a)) (as : List α) :
    NeverRefuses (as.mapM f) := by
  induction as with
  | nil => exact .ok []
  | cons a rest ih =>
    rw [List.mapM_cons]
    exact .bind (hf a) fun _ => .bind ih fun _ => .ok _

theorem items (j : Json) : NeverRefuses j.items := by
  cases j <;> exact nofun

theorem members (j : Json) (name : String) : NeverRefuses (j.members name) := by
  cases j <;> exact nofun

end NeverRefuses

namespace Build

theorem neverRefuses_option (j : Json) : NeverRefuses (option j) := by
  unfold option
  split
  · exact .ok _
  · exact .bind (.members _ _) fun _ => .ok _

theorem neverRefuses_control (f : FieldSpec) : NeverRefuses (control f) := by
  unfold control
  dsimp only
  split
  · exact .ok _
  · split
    · exact .bind (.items _) fun _ => .bind (.mapM neverRefuses_option _) fun _ => .ok _
    · exact .ok _

theorem neverRefuses_field (j : Json) : NeverRefuses (field j) := by
  have hspec : NeverRefuses (FieldSpec.ofJson j) := by
    unfold FieldSpec.ofJson
    split
    · exact .ok _
    · exact .members _ _
  exact .bind hspec fun f => .bind (neverRefuses_control f) fun _ => .ok _

theorem neverRefuses_card (j : Json) : NeverRefuses (card j) := .bind (.members _ _) fun _ => .ok _

theorem neverRefuses_row (j : Json) : NeverRefuses (row j) := .bind (.items _) fun _ => .ok _

/-- Parameters that make no tree are a fault, and no refusal. -/
theorem neverRefuses_envelope (name : Json) (members : List (String × Json)) :
    NeverRefuses (envelope name (.obj members)) := by
  refine .bind (.bind ?_ fun ps => ?_) fun _ => .ok _
  · -- an object is always a dictionary
    cases members <;> exact .ok _
  · split
    · exact .bind (.items _) fun _ => .bind (.mapM neverRefuses_field _) fun _ => .ok _
    · exact .bind (.items _) fun _ => .bind (.mapM neverRefuses_card _) fun _ => .ok _
    · exact .ok _
    · exact .bind (.items _) fun _ => .bind (.items _) fun _ =>
        .bind (.mapM neverRefuses_row _) fun _ => .ok _
    · exact .ok _

end Build

end AssistantUI
