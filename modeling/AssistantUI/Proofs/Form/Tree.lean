import AssistantUI.Proofs.Definition.Cut
import AssistantUI.Proofs.Render.Origin
import AssistantUI.Proofs.Session.Interaction

/-!
# The tree of a form

A form is asked for by a list of fields. What becomes of it is put together in one place, written,
read and rendered in three others, and what the user does is looked up by a position that nobody
writes down: field `i` has three places of the form's body, so its control is at `1.{3i+1}`, and
the button behind all `n` fields is at `1.{3n}`.

Here the whole way is gone once. `IsForm` says what is found at these positions of the tree that is
read back, whatever the fields are called and whatever their labels and options are.
-/

namespace AssistantUI

/-! ## Steps that may fail -/

theorem Except.of_bind_ok {ε α β : Type} {x : Except ε α} {f : α → Except ε β} {b : β}
    (h : (x >>= f) = .ok b) : ∃ a, x = .ok a ∧ f a = .ok b := by
  cases x with
  | error e => cases h
  | ok a => exact ⟨a, rfl, h⟩

/-- What a list of steps gives, step by step. -/
theorem Except.of_mapM_ok {ε α β : Type} {f : α → Except ε β} {as : List α} {bs : List β}
    (h : as.mapM f = .ok bs) :
    bs.length = as.length ∧
      ∀ (i : Nat) (b : β), bs[i]? = some b → ∃ a, as[i]? = some a ∧ f a = .ok b := by
  induction as generalizing bs with
  | nil =>
    obtain rfl := Except.ok.inj h
    exact ⟨rfl, fun i b hb => by simp at hb⟩
  | cons a rest ih =>
    rw [List.mapM_cons] at h
    obtain ⟨c, hc, h⟩ := of_bind_ok h
    obtain ⟨cs, hcs, h⟩ := of_bind_ok h
    obtain rfl := Except.ok.inj h
    obtain ⟨hlength, hget⟩ := ih hcs
    refine ⟨by rw [List.length_cons, hlength, List.length_cons], fun i b hb => ?_⟩
    cases i with
    | zero =>
      obtain rfl := Option.some.inj hb
      exact ⟨a, rfl, hc⟩
    | succ i => exact hget i b hb

section

variable {α : Type} {w : Nat} {blocks : List (List α)}

/-- The items of blocks of one length, by block and place. -/
theorem getElem?_flatten_blocks (h : ∀ b ∈ blocks, b.length = w) {j r : Nat} (hr : r < w) :
    blocks.flatten[w * j + r]? = (blocks[j]?).bind (·[r]?) := by
  induction blocks generalizing j with
  | nil => simp
  | cons b rest ih =>
    have hb : b.length = w := h b List.mem_cons_self
    rw [List.flatten_cons]
    cases j with
    | zero =>
      rw [List.getElem?_append_left (by omega), Nat.mul_zero, Nat.zero_add]
      rfl
    | succ j =>
      have hindex : w * (j + 1) + r - b.length = w * j + r := by rw [Nat.mul_succ]; omega
      rw [List.getElem?_append_right (by rw [Nat.mul_succ]; omega), hindex]
      exact ih fun c hc => h c (List.mem_cons_of_mem b hc)

theorem length_flatten_blocks (h : ∀ b ∈ blocks, b.length = w) :
    blocks.flatten.length = w * blocks.length := by
  induction blocks with
  | nil => rfl
  | cons b rest ih =>
    rw [List.flatten_cons, List.length_append, h b List.mem_cons_self,
      ih fun c hc => h c (List.mem_cons_of_mem b hc), List.length_cons, Nat.mul_succ, Nat.add_comm]

end

/-- The name of a field, however it is asked for: the text itself, or what an object has there. -/
def FieldSpec.nameOf : Json → String
  | .str s => s
  | .obj members => ((Dict.find "name" members).getD (.str "")).display
  | _ => ""

theorem FieldSpec.nameOf_of_ofJson {j : Json} {f : FieldSpec} (h : ofJson j = .ok f) :
    nameOf j = f.name := by
  cases j with
  | str s =>
    obtain rfl := Except.ok.inj h
    rfl
  | obj members =>
    obtain rfl := Except.ok.inj h
    rfl
  | _ => cases h

/-- What a sequence of changes writes, where each is of a field given by its index. -/
def FieldSpec.writes (fields : List Json) (changes : List (Fin fields.length × Json)) :
    List (String × Json) :=
  changes.map fun c => (nameOf fields[c.1], (Trigger.ofJson c.2).value)

namespace Build

/-! ## What is put together -/

section

variable {P : String × EventDescriptor → Prop}

theorem allEvents_child {tag : Tag} {props : List (String × Json)} {children : List Content}
    (h : ∀ c ∈ children, c.AllEvents P) : (child tag props children).AllEvents P :=
  Node.allEvents_iff.mpr
    ⟨fun _ he => absurd he List.not_mem_nil, Content.allEvents_ofChildren h⟩

theorem allEvents_ofJson_children (j : Json) : ∀ c ∈ [Content.ofJson j], c.AllEvents P := by
  intro c hc
  rw [List.mem_singleton.mp hc]
  exact Content.allEvents_ofJson j

theorem allEvents_option {j : Json} {c : Content} (h : option j = .ok c) : c.AllEvents P := by
  have htext (s : String) : ∀ c ∈ [Content.text s], c.AllEvents P := by
    intro c hc
    rw [List.mem_singleton.mp hc]
    exact trivial
  unfold option at h
  split at h
  · obtain rfl := Except.ok.inj h
    exact allEvents_child (htext _)
  · obtain ⟨ms, -, h⟩ := Except.of_bind_ok h
    obtain rfl := Except.ok.inj h
    exact allEvents_child (htext _)

end

/-- A control that shows and writes what the state holds under a name. -/
structure IsControl (name : String) (n : Node) : Prop where
  events : n.events = Dict.ofList [("onChange", changeEvent name)]
  bindings : n.bindings = Dict.ofList [("value", name)]
  named : n.props.get? "name" = some (.str name)
  known : ∃ tag : Tag, n.type = tag.name
  quiet : ∀ P, n.children.AllEvents P

/-- Whatever its kind is, the control of a field is one under the field's name. -/
theorem isControl_of_control {f : FieldSpec} {n : Node} (h : control f = .ok n) :
    IsControl f.name n := by
  unfold control at h
  dsimp only at h
  split at h
  · obtain rfl := Except.ok.inj h
    exact ⟨rfl, rfl, rfl, ⟨.textarea, rfl⟩, fun P => trivial⟩
  · split at h
    · obtain ⟨items, -, h⟩ := Except.of_bind_ok h
      obtain ⟨options, hoptions, h⟩ := Except.of_bind_ok h
      obtain rfl := Except.ok.inj h
      refine ⟨rfl, rfl, rfl, ⟨.select, rfl⟩, fun P => Content.allEvents_many.mpr ?_⟩
      intro c hc
      obtain ⟨i, hi⟩ := List.getElem?_of_mem hc
      obtain ⟨j, -, hj⟩ := (Except.of_mapM_ok hoptions).2 i c hi
      exact allEvents_option hj
    · obtain rfl := Except.ok.inj h
      exact ⟨rfl, rfl, rfl, ⟨.input, rfl⟩, fun P => trivial⟩

/-- What is left of a control when it is read back is still one. -/
theorem IsControl.cut {name : String} {n : Node} (h : IsControl name n) (depth : Int) :
    IsControl name (n.cut depth) := by
  rw [Node.cut_eq]
  exact ⟨h.events, h.bindings, h.named, h.known,
    fun P => Content.allEvents_cut n.children (h.quiet P) depth⟩

/-- A field has three nodes, of which only the control has an event. -/
theorem field_eq {j : Json} {part : List Content} (h : field j = .ok part) :
    ∃ label n spacer, part = [.single label, .single n, .single spacer] ∧
      IsControl (FieldSpec.nameOf j) n ∧
      ∀ P, (Content.single label).AllEvents P ∧ (Content.single spacer).AllEvents P := by
  unfold field at h
  obtain ⟨f, hf, h⟩ := Except.of_bind_ok h
  obtain ⟨n, hn, h⟩ := Except.of_bind_ok h
  obtain rfl := Except.ok.inj h
  have hname : FieldSpec.nameOf j = f.name := FieldSpec.nameOf_of_ofJson hf
  refine ⟨_, n, _, rfl, hname ▸ isControl_of_control hn, fun P => ⟨?_, ?_⟩⟩
  · refine allEvents_child fun c hc => ?_
    rcases List.mem_cons.mp hc with rfl | hc
    · exact Content.allEvents_ofJson f.label
    · rw [List.mem_singleton.mp hc]
      -- the marker of a field that must be filled in
      split
      · exact allEvents_child fun c hc => by rw [List.mem_singleton.mp hc]; exact trivial
      · exact trivial
  · exact allEvents_child fun c hc => absurd hc List.not_mem_nil

/-- The form itself: the nodes of the fields, and the button behind them. -/
def formBody (parts : List (List Content)) (label : Json) : Node :=
  { node .form (className "space-y-4")
      [.many (parts.flatten ++ [.single (submitButton label)])] with
    events := Dict.ofList [("onSubmit", formEvent)] }

/-- The form under its title. -/
def formRoot (title : Json) (parts : List (List Content)) (label : Json) : Node :=
  node .div (className "dynamic-form bg-white p-6 rounded-lg border border-gray-200")
    [titleLine title, .single (formBody parts label)]

theorem form_eq {ps : Parameters} {root : Node} (h : form ps = .ok root) :
    ∃ fields title parts label, (ps.valueOr "fields" Sample.fields).items = .ok fields ∧
      fields.mapM field = .ok parts ∧ root = formRoot title parts label := by
  unfold form at h
  obtain ⟨fields, hfields, h⟩ := Except.of_bind_ok h
  obtain ⟨parts, hparts, h⟩ := Except.of_bind_ok h
  exact ⟨fields, _, parts, _, hfields, hparts, (Except.ok.inj h).symm⟩

section

variable {fields : List Json} {parts : List (List Content)} (hparts : fields.mapM field = .ok parts)
include hparts

/-- The nodes of field `j`, and what is known of them. -/
theorem part_eq {j : Nat} {part : List Content} (h : parts[j]? = some part) :
    ∃ label n spacer, part = [.single label, .single n, .single spacer] ∧
      (∀ f, fields[j]? = some f → IsControl (FieldSpec.nameOf f) n) ∧
      (∀ P, (∀ name, P ("onChange", changeEvent name)) → ∀ c ∈ part, c.AllEvents P) := by
  obtain ⟨f, hf, hfield⟩ := (Except.of_mapM_ok hparts).2 j part h
  obtain ⟨label, n, spacer, rfl, hn, hquiet⟩ := field_eq hfield
  refine ⟨label, n, spacer, rfl, ?_, fun P hP c hc => ?_⟩
  · intro f' hf'
    obtain rfl := Option.some.inj (hf.symm.trans hf')
    exact hn
  · simp only [List.mem_cons, List.not_mem_nil, or_false] at hc
    rcases hc with rfl | rfl | rfl
    · exact (hquiet P).1
    · refine Node.allEvents_iff.mpr ⟨fun e he => ?_, hn.quiet P⟩
      rw [hn.events] at he
      exact List.mem_singleton.mp he ▸ hP _
    · exact (hquiet P).2

/-- A form has three kinds of events, whatever it is asked for with. -/
theorem allEvents_formRoot {P : String × EventDescriptor → Prop} (title label : Json)
    (hchange : ∀ name, P ("onChange", changeEvent name)) (hclick : P ("onClick", submitEvent))
    (hsubmit : P ("onSubmit", formEvent)) : (formRoot title parts label).AllEvents P := by
  have hbutton : (Content.single (submitButton label)).AllEvents P :=
    Node.allEvents_iff.mpr ⟨fun e he => List.mem_singleton.mp he ▸ hclick,
      Content.allEvents_ofChildren (allEvents_ofJson_children label)⟩
  have hbody : (Content.single (formBody parts label)).AllEvents P := by
    refine Node.allEvents_iff.mpr ⟨fun e he => List.mem_singleton.mp he ▸ hsubmit, ?_⟩
    refine Content.allEvents_many.mpr fun c hc => ?_
    rcases List.mem_append.mp hc with hc | hc
    · obtain ⟨part, hpart, hc⟩ := List.mem_flatten.mp hc
      obtain ⟨j, hj⟩ := List.getElem?_of_mem hpart
      obtain ⟨-, -, -, -, -, hquiet⟩ := part_eq hparts hj
      exact hquiet P hchange c hc
    · exact List.mem_singleton.mp hc ▸ hbutton
  have htitle : (titleLine title).AllEvents P := allEvents_child (allEvents_ofJson_children title)
  refine Node.allEvents_iff.mpr ⟨fun e he => absurd he List.not_mem_nil, ?_⟩
  refine Content.allEvents_many.mpr fun c hc => ?_
  rcases List.mem_cons.mp hc with rfl | hc
  · exact htitle
  · exact List.mem_singleton.mp hc ▸ hbody

/-! ## What is found in it -/

/-- Every item of the body is a node, and those that matter are at their places. -/
theorem items_formBody (label : Json) {items : List Content}
    (hitems : items = parts.flatten ++ [.single (submitButton label)]) :
    (∀ c ∈ items, ∃ n, c = .single n) ∧
    (∀ j : Fin fields.length,
      ∃ n, items[3 * j.1 + 1]? = some (.single n) ∧ IsControl (FieldSpec.nameOf (fields.get j)) n) ∧
    items[3 * fields.length]? = some (.single (submitButton label)) := by
  subst hitems
  have hthree : ∀ part ∈ parts, part.length = 3 := by
    intro part hpart
    obtain ⟨j, hj⟩ := List.getElem?_of_mem hpart
    obtain ⟨label, n, spacer, rfl, -, -⟩ := part_eq hparts hj
    rfl
  have hlength : parts.flatten.length = 3 * fields.length := by
    rw [length_flatten_blocks hthree, (Except.of_mapM_ok hparts).1]
  refine ⟨fun c hc => ?_, fun j => ?_, ?_⟩
  · rcases List.mem_append.mp hc with hc | hc
    · obtain ⟨part, hpart, hc⟩ := List.mem_flatten.mp hc
      obtain ⟨j, hj⟩ := List.getElem?_of_mem hpart
      obtain ⟨label, n, spacer, rfl, -, -⟩ := part_eq hparts hj
      simp only [List.mem_cons, List.not_mem_nil, or_false] at hc
      rcases hc with rfl | rfl | rfl
      · exact ⟨label, rfl⟩
      · exact ⟨n, rfl⟩
      · exact ⟨spacer, rfl⟩
    · exact ⟨_, List.mem_singleton.mp hc⟩
  · have hj : j.1 < parts.length := by
      rw [(Except.of_mapM_ok hparts).1]
      exact j.isLt
    have hpart : parts[j.1]? = some parts[j.1] := List.getElem?_eq_getElem hj
    obtain ⟨label, n, spacer, heq, hn, -⟩ := part_eq hparts hpart
    refine ⟨n, ?_, hn _ (List.getElem?_eq_getElem j.isLt)⟩
    have hlt : 3 * j.1 + 1 < parts.flatten.length := by
      rw [length_flatten_blocks hthree]
      omega
    rw [List.getElem?_append_left hlt, getElem?_flatten_blocks hthree (by omega), hpart, heq]
    rfl
  · rw [← hlength, List.getElem?_concat_length]

end

/-- What is left of the body of a form when the form is read back. -/
theorem cut_formRoot (title label : Json) (parts : List (List Content)) :
    ∃ head body : Node,
      ((formRoot title parts label).cut 0).type = "div" ∧
      ((formRoot title parts label).cut 0).children = .many [.single head, .single body] ∧
      body.type = "form" ∧ body.events = Dict.ofList [("onSubmit", formEvent)] ∧
      body.children = .many
        ((parts.flatten ++ [Content.single (submitButton label)]).map (Content.cut 3)) := by
  have hdepth (d : Int) (hd : d ≤ 3) : d ≤ maxDepth := by
    have : (3 : Int) ≤ maxDepth := by decide
    omega
  refine ⟨(node .h3 (className "text-lg font-medium mb-4") [Content.ofJson title]).cut 2,
    (formBody parts label).cut 2, ?_, ?_, ?_, ?_, ?_⟩
  · rw [Node.cut_eq]
    rfl
  · rw [Node.cut_eq]
    show Content.cut 0 (.many [titleLine title, .single (formBody parts label)]) = _
    rw [Content.cut_many (hdepth 0 (by decide)), List.map_cons, List.map_cons, List.map_nil,
      titleLine, child, Content.cut_single (hdepth _ (by decide)),
      Content.cut_single (hdepth _ (by decide))]
    rfl
  · rw [Node.cut_eq]
    rfl
  · rw [Node.cut_eq]
    rfl
  · rw [Node.cut_eq]
    exact Content.cut_many (hdepth 2 (by decide)) _

end Build

/-! ## Where it is found -/

namespace Source

theorem getElem?_ofItems {q : Chain} {i j : Nat} {cs : List Content} {n : Node}
    (hone : ∀ c ∈ cs, ∃ n, c = .single n) (h : cs[j]? = some (.single n)) :
    (ofItems q i cs)[j]? = some (.node (q ++ [i + j]) n) := by
  induction cs generalizing i j with
  | nil => simp at h
  | cons c rest ih =>
    obtain ⟨m, rfl⟩ := hone c List.mem_cons_self
    have hcons : ofItems q i (.single m :: rest) =
        .node (q ++ [i]) m :: ofItems q (i + 1) rest := rfl
    rw [hcons]
    cases j with
    | zero =>
      obtain rfl := Content.single.inj (Option.some.inj h)
      rfl
    | succ j =>
      rw [List.getElem?_cons_succ, ih (fun c hc => hone c (List.mem_cons_of_mem _ hc)) h]
      rw [show i + 1 + j = i + (j + 1) by omega]

/-- Where every item is a node, each is shown under its own index. -/
theorem at?_cons {q : Chain} {n : Node} {tag : Tag} (htag : Tag.ofName? n.type = some tag)
    (hvoid : tag.isVoid = false) {items : List Content} (hitems : n.children = .many items)
    (hone : ∀ c ∈ items, ∃ m, c = .single m) {k : Nat} {m : Node}
    (hk : items[k]? = some (.single m)) (rest : List Nat) :
    (node q n).at? (k :: rest) = (node (q ++ [k]) m).at? rest := by
  have hget : (ofItems q 0 items)[k]? = some (.node (q ++ [0 + k]) m) := getElem?_ofItems hone hk
  rw [Nat.zero_add] at hget
  rw [at?, children_known htag, hvoid, hitems]
  show ((ofItems q 0 items)[k]?).bind _ = _
  rw [hget]
  rfl

end Source

namespace Build

/-- The tree of a form with the given fields, as it is read back. -/
structure IsForm (fields : List Json) (root : Node) : Prop where
  dotFree : (Content.single root).DotFree
  body : ∃ n, (Source.node [] root).at? [1] = some (.node [1] n) ∧
    n.events = Dict.ofList [("onSubmit", formEvent)]
  control : ∀ j : Fin fields.length, ∃ n,
    (Source.node [] root).at? [1, 3 * j.1 + 1] = some (.node [1, 3 * j.1 + 1] n) ∧
      IsControl (FieldSpec.nameOf (fields.get j)) n
  button : ∃ n,
    (Source.node [] root).at? [1, 3 * fields.length] = some (.node [1, 3 * fields.length] n) ∧
      n.events = Dict.ofList [("onClick", submitEvent)]

theorem readable_changeEvent (name : String) : (changeEvent name).Readable := by
  intro u hu e he
  obtain rfl := Option.some.inj hu
  rw [List.mem_singleton.mp he]
  exact UpdateValue.readable_field .value

theorem readable_submitEvent : submitEvent.Readable := fun u hu => by cases hu

theorem readable_formEvent : formEvent.Readable := fun u hu => by cases hu

/-- **A form that can be built is read back as one**, with one control for each field. -/
theorem isForm_of_envelope {fields : List Json} {j : Json}
    (h : envelope (.str "form") (.obj [("fields", .arr fields)]) = .ok j) :
    ∃ root issues, Definition.parse j = .ok (some (.tree root), issues) ∧
      IsForm fields root := by
  obtain ⟨root, hroot, h⟩ := Except.of_bind_ok h
  obtain rfl := Except.ok.inj h
  have htree : tree (.str "form") (.obj [("fields", .arr fields)]) =
      form (Dict.ofList [(.text "fields", .arr fields)]) := rfl
  rw [htree] at hroot
  obtain ⟨items, title, parts, label, hitems, hparts, rfl⟩ := form_eq hroot
  obtain rfl : fields = items := Except.ok.inj hitems
  have hread : (formRoot title parts label).AllEvents ReadableEvent :=
    allEvents_formRoot hparts title label readable_changeEvent readable_submitEvent
      readable_formEvent
  have hdot : '.' ∉ "onChange".toList := by decide
  have hfree : (formRoot title parts label).AllEvents fun event => '.' ∉ event.1.toList :=
    allEvents_formRoot hparts title label (fun _ => hdot) (by decide) (by decide)
  obtain ⟨issues, hparse, -⟩ := Definition.parse_envelope_cut hread
  refine ⟨_, issues, hparse, ?_⟩
  obtain ⟨head, body, htype, hchildren, hform, hevents, hitems⟩ := cut_formRoot title label parts
  obtain ⟨hsingle, hcontrols, hbutton⟩ := items_formBody hparts label rfl
  have hdepth : (3 : Int) ≤ maxDepth := by decide
  have hdiv : Tag.ofName? ((formRoot title parts label).cut 0).type = some .div := by
    rw [htype]
    rfl
  have hform' : Tag.ofName? body.type = some .form := by
    rw [hform]
    rfl
  have htwo : ∀ c ∈ [Content.single head, .single body], ∃ n, c = .single n := by simp
  have hbody (rest : List Nat) :
      (Source.node [] ((formRoot title parts label).cut 0)).at? (1 :: rest) =
        (Source.node [1] body).at? rest :=
    Source.at?_cons hdiv rfl hchildren htwo rfl rest
  -- an item of the body is found under its own index; what was cut off is below it
  have hitem {k : Nat} {n : Node}
      (hn : (parts.flatten ++ [Content.single (submitButton label)])[k]? = some (.single n)) :
      (Source.node [] ((formRoot title parts label).cut 0)).at? [1, k] =
        some (.node [1, k] (n.cut 4)) := by
    rw [hbody]
    exact Source.at?_cons hform' rfl hitems (Content.single_of_mem_cut hdepth hsingle)
      (Content.getElem?_cut hdepth hn) []
  refine ⟨?_, ⟨body, hbody [], hevents⟩, fun j => ?_, ?_⟩
  · exact Content.dotFree_of_allEvents (Node.allEvents_cut _ hfree 0)
  · obtain ⟨n, hn, hcontrol⟩ := hcontrols j
    exact ⟨n.cut 4, hitem hn, hcontrol.cut 4⟩
  · refine ⟨_, hitem hbutton, ?_⟩
    rw [Node.cut_eq]
    rfl

/-! ## What it shows and does -/

/-- A control shows its name, and what the state holds under it. -/
theorem IsControl.view {name : String} {n : Node} (h : IsControl name n) (values : State) :
    ∃ el, n.view values = .element el ∧ el.props.get? "name" = some (.str name) ∧
      el.props.get? "value" = some (values.value name) := by
  obtain ⟨tag, htag⟩ := h.known
  have hknown : Tag.ofName? n.type = some tag := by rw [htag, Tag.ofName?_name]
  have hprops : n.renderedProps values =
      (n.props.insertList [("value", values.value name)]).insertList
        [("onChange", callbackPlaceholder)] := by
    unfold Node.renderedProps Node.resolvedProps
    rw [h.events, h.bindings]
    rfl
  have hget (k : String) : (n.renderedProps values).get? k =
      (Dict.find k [("onChange", callbackPlaceholder)]).or
        ((Dict.find k [("value", values.value name)]).or (n.props.get? k)) := by
    rw [hprops, Dict.get?_insertList, Dict.get?_insertList]
    rfl
  have hview : n.view values = .element (Element.known tag (n.renderedProps values)
      (n.children.views values) n.events.keys) := by
    rw [Node.view_eq, Element.ofNode_known hknown]
  refine ⟨_, hview, ?_, hget "value"⟩
  show (n.renderedProps values).get? "name" = _
  rw [hget, h.named]
  rfl

namespace IsForm

variable {fields : List Json} {root : Node} (h : IsForm fields root)
include h

theorem handles {P : Handler → Prop} {p : List Nat} {q : Chain} {n : Node}
    (hat : (Source.node [] root).at? p = some (.node q n)) {name : String} {d : EventDescriptor}
    (hevents : n.events = Dict.ofList [(name, d)]) (hP : P (.described d)) :
    (Definition.tree root).Handles (Position.key q name) P := by
  intro values
  have hmem : (name, d) ∈ n.events.entries := by
    rw [hevents]
    exact List.mem_singleton_self _
  have hget : (Definition.callbacks? values (some (.tree root))).get? (Position.key q name) =
      some (n.callback values (name, d)) :=
    Content.get?_callbacks h.dotFree values (Source.mem_nodes_of_at? hat) hmem
  exact ⟨_, hget, hP⟩

theorem handles_change (j : Fin fields.length) :
    (Definition.tree root).Handles (Position.key [1, 3 * j.1 + 1] "onChange")
      (Handler.Writes (FieldSpec.nameOf (fields.get j))) := by
  obtain ⟨n, hat, hn⟩ := h.control j
  exact h.handles hat hn.events (Handler.writes_changeEvent _)

theorem handles_click :
    (Definition.tree root).Handles (Position.key [1, 3 * fields.length] "onClick")
      (Handler.Submits fun state => Dict.ofList [(.text "state", .state state)]) := by
  obtain ⟨n, hat, hn⟩ := h.button
  exact h.handles hat hn Handler.submits_submitEvent

theorem handles_submit :
    (Definition.tree root).Handles (Position.key [1] "onSubmit") Handler.Prevents := by
  obtain ⟨n, hat, hn⟩ := h.body
  exact h.handles hat hn Handler.prevents_formEvent

theorem view (j : Fin fields.length) (values : State) :
    ∃ el, (root.view values).at? [1, 3 * j.1 + 1] = some (.element el) ∧
      el.props.get? "name" = some (.str (FieldSpec.nameOf (fields.get j))) ∧
      el.props.get? "value" = some (values.value (FieldSpec.nameOf (fields.get j))) := by
  obtain ⟨n, hat, hn⟩ := h.control j
  obtain ⟨el, hel, hname, hvalue⟩ := hn.view values
  refine ⟨el, ?_, hname, hvalue⟩
  have hview := Source.view_at? values (.node [] root) [1, 3 * j.1 + 1]
  rw [hat, Option.map_some] at hview
  exact hview.trans (congrArg some hel)

end IsForm

end Build

end AssistantUI
