import AssistantUI.Build.Flat
import AssistantUI.Proofs.Form.Tree

/-!
# The flat definition of a form

The older shape of a form is a list of components. What is rendered of it is kept under keys of its
own, `form.{i}.onChange` for the component with index `i` and `form.onSubmit` for the form, and a
component that is no field has no key but counts all the same. In the definition that is built for
a list of fields the components are the fields in their order, so as long as each of them is a line
or an area of text, the key of field `i` has its own index in it (`handles_change`).
-/

namespace AssistantUI

/-- Is the field asked for by its name, or as a line or an area of text? -/
def FieldSpec.isText : Json → Bool
  | .str _ => true
  | .obj members =>
    let type := Json.member members "type"
    !type.truthy || type = .str "input" || type = .str "textarea"
  | _ => false

namespace Flat

/-! ## Keys -/

/-- The key of the field with an index. -/
def fieldKey (i : Nat) : String := (Position.item "form" i).under "onChange"

theorem toList_fieldKey (i : Nat) :
    (fieldKey i).toList = "form.".toList ++ ((toString i).toList ++ ".onChange".toList) := by
  have hitem : Position.item "form" i = "form" ++ "." ++ toString i := rfl
  have hne : Position.item "form" i ≠ "" := by
    intro h
    have hlist := congrArg String.toList h
    rw [hitem] at hlist
    simp at hlist
  rw [fieldKey, Position.under, if_neg hne, hitem]
  simp

theorem fieldKey_injective {i j : Nat} (h : fieldKey i = fieldKey j) : i = j := by
  have hlist := congrArg String.toList h
  rw [toList_fieldKey, toList_fieldKey] at hlist
  exact Position.toString_injective (List.append_cancel_right (List.append_cancel_left hlist))

theorem fieldKey_ne_submit (i : Nat) : fieldKey i ≠ "form.onSubmit" := by
  intro h
  -- the keys end in different characters
  have hlast : (fieldKey i).toList.getLast? = some 'e' := by
    rw [toList_fieldKey, List.getLast?_append, List.getLast?_append]
    rfl
  rw [h] at hlast
  exact absurd hlast (by decide)

/-! ## What is registered -/

variable {i j : Nat} {components : List Component}

theorem mem_fieldRegistrations (values : State) {c : Component} {kind : FieldKind}
    (hj : components[j]? = some c) (hkind : fieldKind? c = some kind) :
    (fieldKey (i + j), (⟨.fieldChange (fieldName c), "onChange", kind.tag.name,
      fieldProps values kind c⟩ : Callback)) ∈ fieldRegistrations values i components := by
  induction components generalizing i j with
  | nil => simp at hj
  | cons d rest ih =>
    rw [fieldRegistrations]
    cases j with
    | zero =>
      obtain rfl := Option.some.inj hj
      rw [hkind]
      exact List.mem_append_left _ (List.mem_singleton_self _)
    | succ j =>
      have hrest := ih (i := i + 1) hj
      rw [show i + 1 + j = i + (j + 1) by omega] at hrest
      exact List.mem_append_right _ hrest

/-- Fields are registered under the keys of their indices, which grow. -/
theorem sublist_fieldRegistrations (values : State) (i : Nat) (components : List Component) :
    ((fieldRegistrations values i components).map Prod.fst).Sublist
      ((List.range' i components.length).map fieldKey) := by
  induction components generalizing i with
  | nil => exact .slnil
  | cons c rest ih =>
    rw [fieldRegistrations, List.length_cons, List.range'_succ, List.map_cons]
    cases fieldKind? c with
    | none => exact (ih (i + 1)).cons _
    | some kind => exact (ih (i + 1)).cons_cons _

theorem nodup_formRegistrations (values : State) (components : List Component) :
    ((formRegistrations values components).map Prod.fst).Nodup := by
  rw [formRegistrations, List.map_append, List.nodup_append]
  have hsub := sublist_fieldRegistrations values 0 components
  refine ⟨?_, by simp, ?_⟩
  · have hrange : (List.range' 0 components.length).Nodup := List.nodup_range'
    refine hsub.nodup (List.pairwise_map.mpr ?_)
    exact hrange.imp fun hne h => hne (fieldKey_injective h)
  · intro a ha b hb hab
    obtain ⟨k, -, rfl⟩ := List.mem_map.mp (hsub.subset ha)
    rw [List.map_singleton, List.mem_singleton] at hb
    exact fieldKey_ne_submit k (hab.trans hb)

variable {members : List (String × Json)}

theorem handles_of_mem {key : String} {P : Handler → Prop}
    (h : ∀ values, ∃ callback, (key, callback) ∈ formRegistrations values (flatComponents members) ∧
      P callback.handler) : (Definition.flat "form" members).Handles key P := by
  intro values
  obtain ⟨callback, hmem, hP⟩ := h values
  refine ⟨callback, Dict.get?_of_mem ?_, hP⟩
  show (key, callback) ∈ (Dict.ofList (formRegistrations values (flatComponents members))).entries
  rw [Dict.entries_ofList_of_nodup (nodup_formRegistrations values _)]
  exact hmem

theorem handles_change {c : Component} {kind : FieldKind}
    (hc : (flatComponents members)[j]? = some c) (hkind : fieldKind? c = some kind) :
    (Definition.flat "form" members).Handles (fieldKey j) (Handler.Writes (fieldName c)) := by
  refine handles_of_mem fun values => ?_
  have hmem := mem_fieldRegistrations values (i := 0) hc hkind
  rw [Nat.zero_add] at hmem
  exact ⟨_, List.mem_append_left _ hmem, Handler.writes_fieldChange _⟩

theorem handles_submit (members : List (String × Json)) :
    (Definition.flat "form" members).Handles "form.onSubmit" (Handler.Submits State.payload) :=
  handles_of_mem fun _ =>
    ⟨_, List.mem_append_right _ (List.mem_singleton_self _), Handler.submits_formSubmit⟩

end Flat

/-! ## What is built -/

namespace Build.Flat

open AssistantUI.Flat (Component fieldName fieldKind?)

/-- A list of objects is the list of components that it looks like. -/
theorem flatComponents_objects (type : Json) (components : List Component) :
    flatComponents [("type", type), ("components", .arr (components.map .obj))] = components := by
  show (components.map Json.obj).filterMap _ = components
  rw [List.filterMap_map]
  exact List.filterMap_some

/-- The component of a field has the field's name and, for a text, is a field of the form. -/
theorem fieldComponent_eq {j c : Json} (h : fieldComponent j = .ok c) :
    c = .obj c.membersOrNone ∧ fieldName c.membersOrNone = FieldSpec.nameOf j ∧
      (FieldSpec.isText j = true → (fieldKind? c.membersOrNone).isSome) := by
  have hname (s : String) : ((Json.str s).orElse (.str "")).display = s := by
    unfold Json.orElse Json.truthy
    by_cases hs : s = ""
    · subst hs
      rfl
    · simp [hs]
      rfl
  unfold fieldComponent at h
  obtain ⟨f, hf, h⟩ := Except.of_bind_ok h
  rw [FieldSpec.nameOf_of_ofJson hf]
  split at h
  · obtain rfl := Except.ok.inj h
    obtain rfl := Except.ok.inj hf
    exact ⟨rfl, hname _, fun _ => rfl⟩
  · obtain ⟨options, -, h⟩ := Except.of_bind_ok h
    obtain rfl := Except.ok.inj h
    refine ⟨rfl, hname _, fun htext => ?_⟩
    show (fieldKind? (("type", (Json.member f "type").orElse (.str "input")) ::
      _)).isSome
    generalize htype : (Json.member f "type").orElse (.str "input") = type
    have hkind : type = .str "input" ∨ type = .str "textarea" := by
      cases j with
      | obj members =>
        obtain rfl := Except.ok.inj hf
        simp only [FieldSpec.isText, Bool.or_eq_true, decide_eq_true_eq, Bool.not_eq_true'] at htext
        rw [← htype]
        rcases htext with (hfalse | hinput) | htextarea
        · exact Or.inl (by rw [Json.orElse, hfalse]; rfl)
        · exact Or.inl (by rw [hinput]; rfl)
        · exact Or.inr (by rw [htextarea]; rfl)
      | str s => exact absurd rfl (‹∀ name, Json.str s = Json.str name → False› s)
      | _ => exact absurd htext Bool.false_ne_true
    rcases hkind with rfl | rfl
    · rfl
    · rfl

section

variable {fields components : List Json} (h : fields.mapM fieldComponent = .ok components)
include h

theorem components_eq : (components.map Json.membersOrNone).map Json.obj = components := by
  rw [List.map_map]
  refine (List.map_congr_left fun c hc => ?_).trans (List.map_id _)
  obtain ⟨i, hi⟩ := List.getElem?_of_mem hc
  obtain ⟨f, -, hf⟩ := (Except.of_mapM_ok h).2 i c hi
  exact (fieldComponent_eq hf).1.symm

theorem component_of_field (k : Fin fields.length) :
    ∃ c, (components.map Json.membersOrNone)[k.1]? = some c ∧
      fieldName c = FieldSpec.nameOf (fields.get k) ∧
      (FieldSpec.isText (fields.get k) = true → (fieldKind? c).isSome) := by
  obtain ⟨hlength, hget⟩ := Except.of_mapM_ok h
  have hk : components[k.1]? = some components[k.1] := List.getElem?_eq_getElem (by omega)
  obtain ⟨f, hf, hcomponent⟩ := hget k _ hk
  obtain rfl : fields.get k = f :=
    Option.some.inj ((List.getElem?_eq_getElem k.isLt).symm.trans hf)
  refine ⟨_, ?_, (fieldComponent_eq hcomponent).2⟩
  rw [List.getElem?_map, hk, Option.map_some]

end

/-- **A form of texts that can be built is read as one**, with a key for each field. -/
theorem handles_of_definition {fields : List Json} {j : Json}
    (h : definition (.str "form") (.obj [("fields", .arr fields)]) = .ok j)
    (htext : ∀ f ∈ fields, FieldSpec.isText f = true) :
    ∃ members, Definition.parse j = .ok (some (.flat "form" members), []) ∧
      ∀ k : Fin fields.length, (Definition.flat "form" members).Handles
        (AssistantUI.Flat.fieldKey k) (Handler.Writes (FieldSpec.nameOf (fields.get k))) := by
  have hform : definition (.str "form") (.obj [("fields", .arr fields)]) =
      form (Dict.ofList [(.text "fields", .arr fields)]) := rfl
  rw [hform] at h
  obtain ⟨items, hitems, h⟩ := Except.of_bind_ok h
  obtain rfl := Except.ok.inj hitems
  obtain ⟨components, hcomponents, h⟩ := Except.of_bind_ok h
  obtain rfl := Except.ok.inj h
  let button : Component := [("type", .str "button"),
    ("label", (Parameters.value (Dict.ofList [(.text "fields", .arr fields)]) "submitLabel").orElse
      (.str "Submit")), ("action", .str "submit"), ("variant", .str "primary")]
  have hobjects : components ++ [.obj button] =
      (components.map Json.membersOrNone ++ [button]).map .obj := by
    rw [List.map_append, components_eq hcomponents]
    rfl
  refine ⟨[("type", .str "form"), ("components", .arr (components ++ [.obj button]))], rfl,
    fun k => ?_⟩
  obtain ⟨c, hc, hname, hkind⟩ := component_of_field hcomponents k
  obtain ⟨kind, hkind⟩ := Option.isSome_iff_exists.mp (hkind (htext _ (List.getElem_mem k.isLt)))
  rw [hobjects, ← hname]
  refine AssistantUI.Flat.handles_change ?_ hkind
  rw [flatComponents_objects, List.getElem?_append_left (List.getElem?_eq_some_iff.mp hc).1, hc]

end Build.Flat

end AssistantUI
