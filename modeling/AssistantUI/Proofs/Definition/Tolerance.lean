import AssistantUI.Proofs.Session.Mounts

/-!
# What is made of any value

Reading notes what is wrong with a value and works around it. What it comes to is said here
without any notes: `salvage` makes something of every value, where a piece of the wrong kind is
dropped, taken as empty or kept as a plain value, and everything around it stays.

One kind of piece defeats reading: an update that refers to the triggering field by a list or an
object, where a name belongs. The name is looked up before anything is known of it, and a
container cannot be looked up. `fault?` goes through a value in the order of reading and stops at
the first such piece. Reading gives what `salvage` gives where there is none and fails
otherwise (`Definition.value?_parse`), and so does mounting, in every state of a session.
-/

namespace AssistantUI

/-- The text that a value is. -/
def Json.text? : Json → Option String
  | .str s => some s
  | _ => none

/-- A value, unless there is a fault. -/
def Fault.unless {α : Type} (f : Option Fault) (a : α) : Except Fault α :=
  match f with
  | some f => .error f
  | none => .ok a

namespace Parse

variable {α β : Type}

theorem value?_bind (p : Parse α) (f : α → Parse β) :
    (p >>= f).value? = p.value? >>= fun a => (f a).value? := by
  show (Parse.bind p f).value? = _
  unfold Parse.bind
  cases p with
  | error e => rfl
  | ok r =>
    obtain ⟨a, is⟩ := r
    show _ = (f a).value?
    cases hf : f a with
    | error e => simp only [hf]
    | ok r => simp only [hf]; rfl

/-- What is read in two steps has the fault of the first one that has any. -/
theorem value?_bind_unless {p : Parse α} {k : α → Parse β} {f g : Option Fault} {a : α} {b : β}
    (hp : p.value? = Fault.unless f a) (hk : (k a).value? = Fault.unless g b) :
    (p >>= k).value? = Fault.unless (f.or g) b := by
  rw [value?_bind, hp]
  cases f with
  | some f => rfl
  | none => exact hk

theorem value?_bind_ok {p : Parse α} {k : α → Parse β} {g : Option Fault} {a : α} {b : β}
    (hp : p.value? = .ok a) (hk : (k a).value? = Fault.unless g b) :
    (p >>= k).value? = Fault.unless g b :=
  value?_bind_unless (f := none) hp hk

/-- A second step that cannot fail adds no fault. -/
theorem value?_bind_pure {p : Parse α} {k : α → Parse β} {f : Option Fault} {a : α} {b : β}
    (hp : p.value? = Fault.unless f a) (hk : (k a).value? = .ok b) :
    (p >>= k).value? = Fault.unless f b := by
  have h := value?_bind_unless (g := none) hp hk
  rwa [Option.or_none] at h

end Parse

/-! ## Updates and events -/

namespace UpdateValue

/-- What an update is taken for: a reference if it spells one, and itself if not. -/
def salvage (j : Json) : UpdateValue :=
  let ref? := match j with
    | .str s => TemplateRef.ofMarker? s
    | .obj [("$template", .str s)] => TemplateRef.ofName? s
    | _ => none
  match ref? with
  | some ref => .field ref
  | none => .const j

/-- A reference by a container. -/
def fault? : Json → Option Fault
  | .obj [("$template", .arr _)] => some (.unhashable "list")
  | .obj [("$template", .obj _)] => some (.unhashable "dict")
  | _ => none

theorem ofJson_eq (j : Json) : ofJson j = Fault.unless (fault? j) (salvage j) := by
  unfold ofJson
  split
  · rename_i s
    show _ = Except.ok (salvage (.str s))
    cases h : TemplateRef.ofMarker? s <;> simp [salvage, h]
  · rename_i s
    show _ = Except.ok (salvage (.obj [("$template", .str s)]))
    cases h : TemplateRef.ofName? s <;> simp [salvage, h]
  · rfl
  · rfl
  · rename_i hstr hname harr hobj
    have hfault : fault? j = none := by
      unfold fault?
      split
      · exact absurd rfl (harr _)
      · exact absurd rfl (hobj _)
      · rfl
    have hsalvage : salvage j = .const j := by
      unfold salvage
      split
      · exact absurd rfl (hstr _)
      · exact absurd rfl (hname _)
      · rfl
    rw [hfault, hsalvage]
    rfl

end UpdateValue

namespace EventDescriptor

/-- What is made of updates. -/
def salvageUpdates : Json → Option (Dict String UpdateValue)
  | .obj ms => some (Dict.ofList (ms.map fun e => (e.1, UpdateValue.salvage e.2)))
  | _ => none

/-- What is made of the data of an event. -/
def salvageData : Json → Option (Dict String Json)
  | .obj data => some (Json.dict data)
  | _ => none

/-- What is made of an event: a part of the wrong kind is dropped, and so is what is no object. -/
def salvage : Json → Option EventDescriptor
  | .obj ms => some {
      action := (Json.member ms "action").text?
      updates := salvageUpdates (Json.member ms "stateUpdates")
      emits := (Json.member ms "emitEvent").text?
      data := salvageData (Json.member ms "data") }
  | _ => none

/-- The first reference by a container in an event. -/
def fault? : Json → Option Fault
  | .obj ms =>
    (Json.member ms "stateUpdates").membersOrNone.findSome? fun e => UpdateValue.fault? e.2
  | _ => none

theorem parseUpdateEntries_eq (ms : List (String × Json)) :
    parseUpdateEntries ms = Fault.unless (ms.findSome? fun e => UpdateValue.fault? e.2)
      (ms.map fun e => (e.1, UpdateValue.salvage e.2)) := by
  induction ms with
  | nil => rfl
  | cons e rest ih =>
    rw [parseUpdateEntries, UpdateValue.ofJson_eq, ih, List.findSome?_cons]
    cases UpdateValue.fault? e.2 with
    | some f => rfl
    | none =>
      cases rest.findSome? fun e => UpdateValue.fault? e.2 with
      | some f => rfl
      | none => rfl

theorem value?_parseAction (pos : Position) (j : Json) :
    (parseAction pos j).value? = .ok j.text? := by
  cases j with
  | str s =>
    by_cases hs : knownAction s = true
    · simp only [parseAction, if_pos hs]
      rfl
    · simp only [parseAction, if_neg hs]
      rfl
  | _ => rfl

theorem value?_parseUpdates (pos : Position) (j : Json) :
    (parseUpdates pos j).value? =
      Fault.unless (j.membersOrNone.findSome? fun e => UpdateValue.fault? e.2)
        (salvageUpdates j) := by
  cases j with
  | obj ms =>
    rw [parseUpdates, parseUpdateEntries_eq]
    show _ = Fault.unless (ms.findSome? fun e => UpdateValue.fault? e.2) _
    cases ms.findSome? fun e => UpdateValue.fault? e.2 with
    | some f => rfl
    | none => rfl
  | _ => rfl

theorem value?_parse (pos : Position) (j : Json) :
    (parse pos j).value? = Fault.unless (fault? j) (salvage j) := by
  cases j with
  | obj ms =>
    -- of the four parts only the updates can fail
    have haction := value?_parseAction pos (Json.member ms "action")
    have hupdates := value?_parseUpdates pos (Json.member ms "stateUpdates")
    have hemits : (parseEmits pos (Json.member ms "emitEvent")).value? =
        .ok (Json.member ms "emitEvent").text? := by
      cases Json.member ms "emitEvent" <;> rfl
    have hdata : (parseData pos (Json.member ms "data")).value? =
        .ok (salvageData (Json.member ms "data")) := by
      cases Json.member ms "data" <;> rfl
    rw [parse]
    refine Parse.value?_bind_ok haction (Parse.value?_bind_pure hupdates ?_)
    exact Parse.value?_bind_ok (g := none) hemits (Parse.value?_bind_ok hdata rfl)
  | _ => rfl

/-- What is made of the events of a node. -/
def salvageAll (ms : List (String × Json)) : List (String × EventDescriptor) :=
  ms.filterMap fun e => (salvage e.2).map fun d => (e.1, d)

theorem value?_parseEvents (base : Position) (ms : List (String × Json)) :
    (parseEvents base ms).value? =
      Fault.unless (ms.findSome? fun e => fault? e.2) (salvageAll ms) := by
  induction ms with
  | nil => rfl
  | cons e rest ih =>
    have hfault : (e :: rest).findSome? (fun e => fault? e.2) =
        (fault? e.2).or (rest.findSome? fun e => fault? e.2) := by
      rw [List.findSome?_cons]
      cases fault? e.2 <;> rfl
    rw [parseEvents, hfault]
    refine Parse.value?_bind_unless (value?_parse _ e.2) (Parse.value?_bind_pure ih ?_)
    simp only [salvageAll, List.filterMap_cons]
    cases salvage e.2 <;> rfl

end EventDescriptor

/-! ## Nodes and contents -/

/-- What is made of the members of a node, around what is made of its children. -/
def Node.salvageWith (members : List (String × Json)) (children : Content) : Node where
  type := (Json.member members "type").text?.getD ""
  props := Node.parseProps (Json.member members "props")
  children := children
  events := Dict.ofList (EventDescriptor.salvageAll (Json.member members "events").membersOrNone)
  bindings := Node.parseBindings (Json.member members "stateBindings").membersOrNone

/-- The first reference by a container among the events of a node. -/
def Node.eventFault? (members : List (String × Json)) : Option Fault :=
  (Json.member members "events").membersOrNone.findSome? fun e => EventDescriptor.fault? e.2

theorem Node.value?_parseWith (pos : Position) (members : List (String × Json))
    (children : Parse Content) {f : Option Fault} {c : Content}
    (hc : children.value? = Fault.unless f c) :
    (Node.parseWith pos members children).value? =
      Fault.unless ((Node.eventFault? members).or f) (Node.salvageWith members c) := by
  have htype : (Node.parseType pos (Json.member members "type")).value? =
      .ok ((Json.member members "type").text?.getD "") := by
    cases Json.member members "type" <;> rfl
  have hevents := EventDescriptor.value?_parseEvents pos
    (Json.member members "events").membersOrNone
  rw [Node.parseWith]
  refine Parse.value?_bind_ok htype (Parse.value?_bind_unless hevents ?_)
  exact Parse.value?_bind_pure hc rfl

mutual

/-- What is made of a value at a depth. -/
def Content.salvage (depth : Int) (raw : Json) : Content :=
  match raw with
  | .null => .empty
  | .bool _ => .empty
  | .str s => .text s
  | .int n => .text (Json.display (.int n))
  | .float x => .text (Json.display (.float x))
  | .obj members =>
    if depth > maxDepth then .empty
    else .single (Node.salvageWith members (Content.salvageChildren (depth + 1) members))
  | .arr items =>
    if depth > maxDepth then .empty else .many (Content.salvageItems (depth + 1) items)

/-- What is made of the children among members. -/
def Content.salvageChildren (depth : Int) (members : List (String × Json)) : Content :=
  match members with
  | [] => .empty
  | (k, j) :: rest =>
    if k = "children" then Content.salvage depth j else Content.salvageChildren depth rest

/-- What is made of items, each of them in its place. -/
def Content.salvageItems (depth : Int) (items : List Json) : List Content :=
  match items with
  | [] => []
  | j :: rest => Content.salvage depth j :: Content.salvageItems depth rest

end

mutual

/-- The first reference by a container in a value, as far as it is read from a depth on. -/
def Content.fault? (depth : Int) (raw : Json) : Option Fault :=
  match raw with
  | .obj members =>
    if depth > maxDepth then none
    else (Node.eventFault? members).or (Content.childrenFault? (depth + 1) members)
  | .arr items => if depth > maxDepth then none else Content.itemsFault? (depth + 1) items
  | _ => none

/-- The first one in the children among members. -/
def Content.childrenFault? (depth : Int) (members : List (String × Json)) : Option Fault :=
  match members with
  | [] => none
  | (k, j) :: rest =>
    if k = "children" then Content.fault? depth j else Content.childrenFault? depth rest

/-- The first one in items. -/
def Content.itemsFault? (depth : Int) (items : List Json) : Option Fault :=
  match items with
  | [] => none
  | j :: rest => (Content.fault? depth j).or (Content.itemsFault? depth rest)

end

mutual

theorem Content.value?_parse (raw : Json) (depth : Int) (pos : Position) :
    (Content.parse depth pos raw).value? =
      Fault.unless (Content.fault? depth raw) (Content.salvage depth raw) := by
  match raw with
  | .null | .bool _ | .int _ | .float _ | .str _ => rfl
  | .obj members =>
    have hchildren := Content.value?_parseChildren members (depth + 1) pos
    have hnode := Node.value?_parseWith pos members _ hchildren
    rw [Content.parse, Content.fault?, Content.salvage]
    by_cases hdepth : depth > maxDepth
    · rw [if_pos hdepth, if_pos hdepth, if_pos hdepth]
      rfl
    · rw [if_neg hdepth, if_neg hdepth, if_neg hdepth]
      exact Parse.value?_bind_pure hnode rfl
  | .arr items =>
    have hitems := Content.value?_parseItems items (depth + 1) pos 0
    rw [Content.parse, Content.fault?, Content.salvage]
    by_cases hdepth : depth > maxDepth
    · rw [if_pos hdepth, if_pos hdepth, if_pos hdepth]
      rfl
    · rw [if_neg hdepth, if_neg hdepth, if_neg hdepth]
      exact Parse.value?_bind_pure hitems rfl

theorem Content.value?_parseChildren (members : List (String × Json)) (depth : Int)
    (pos : Position) :
    (Content.parseChildren depth pos members).value? =
      Fault.unless (Content.childrenFault? depth members)
        (Content.salvageChildren depth members) := by
  match members with
  | [] => rfl
  | (k, j) :: rest =>
    rw [Content.parseChildren, Content.childrenFault?, Content.salvageChildren]
    by_cases hk : k = "children"
    · rw [if_pos hk, if_pos hk, if_pos hk]
      exact Content.value?_parse j depth pos
    · rw [if_neg hk, if_neg hk, if_neg hk]
      exact Content.value?_parseChildren rest depth pos

theorem Content.value?_parseItems (items : List Json) (depth : Int) (pos : Position) (i : Nat) :
    (Content.parseItems depth pos i items).value? =
      Fault.unless (Content.itemsFault? depth items) (Content.salvageItems depth items) := by
  match items with
  | [] => rfl
  | j :: rest =>
    have hj := Content.value?_parse j depth (pos.item i)
    have hrest := Content.value?_parseItems rest depth pos (i + 1)
    rw [Content.parseItems, Content.itemsFault?, Content.salvageItems]
    exact Parse.value?_bind_unless hj (Parse.value?_bind_pure hrest rfl)

end

/-! ## Definitions -/

namespace Definition

/-- What is made of any value as a definition; nothing, if it has neither shape. -/
def salvage : Json → Option Definition
  | .obj members =>
    if Json.member members "renderType" = .str treeMarker then
      match Json.member members "definition" with
      | .obj node => some (.tree (Node.salvageWith node (Content.salvageChildren 0 node)))
      | _ => none
    else (Json.member members "type").text?.map fun type => .flat type members
  | _ => none

/-- The first reference by a container in a tree, as far as it is read. A flat shape has none. -/
def fault? : Json → Option Fault
  | .obj members =>
    if Json.member members "renderType" = .str treeMarker then
      match Json.member members "definition" with
      | .obj node => (Node.eventFault? node).or (Content.childrenFault? 0 node)
      | _ => none
    else none
  | _ => none

theorem value?_parse (raw : Json) :
    (Definition.parse raw).value? = Fault.unless (fault? raw) (salvage raw) := by
  cases raw with
  | obj members =>
    rw [Definition.parse, fault?, salvage]
    by_cases htree : Json.member members "renderType" = .str treeMarker
    · rw [if_pos htree, if_pos htree, if_pos htree]
      cases Json.member members "definition" with
      | obj node =>
        have hnode := Node.value?_parseWith "" node _ (Content.value?_parseChildren node 0 "")
        exact Parse.value?_bind_pure hnode rfl
      | _ => rfl
    · rw [if_neg htree, if_neg htree, if_neg htree]
      cases Json.member members "type" <;> rfl
  | _ => rfl

end Definition

/-! ## Mounting -/

namespace Session

variable {σ : Type}

/-- **Mounting fails at a reference by a container and at nothing else.** Where a value holds
none that is read, and is not null, there is a new mount of whatever can be made of the value,
rendered once in an empty state. The mount that was present is taken down in any case. -/
theorem mount_salvages (host : Host σ) (s : Session σ) (d : Json) :
    match Definition.fault? d with
    | some f => mount host (.json d) s = (.error f, s.unmount)
    | none =>
      if d = .null then mount host (.json d) s = (.ok none, s.unmount)
      else ∃ m, mount host (.json d) s = (.ok (some s.mounts.length), s.unmount.start m) ∧
        m.mounted = true ∧ m.definition = Definition.salvage d ∧ m.store.values = ∅ ∧
        m.view = Definition.render? ∅ (Definition.salvage d) ∧
        m.callbacks = Definition.callbacks? ∅ (Definition.salvage d) ∧ m.renderCount = 1 := by
  have hread := Definition.value?_parse d
  by_cases hnull : d = .null
  · subst hnull
    show (if Json.null = .null then _ else _)
    rw [if_pos rfl]
    exact mount_of_null host s rfl
  · have hjson : (Mountable.json d).isNull = false := by
      cases d with
      | null => exact absurd rfl hnull
      | _ => rfl
    cases hfault : Definition.fault? d with
    | some f =>
      rw [hfault] at hread
      cases hparse : Definition.parse d with
      | error g =>
        rw [hparse] at hread
        cases hread
        exact mount_of_error host s hjson hparse
      | ok r => rw [hparse] at hread; cases hread
    | none =>
      rw [hfault] at hread
      show (if d = .null then _ else _)
      rw [if_neg hnull]
      cases hparse : Definition.parse d with
      | error g => rw [hparse] at hread; cases hread
      | ok r =>
        obtain ⟨definition, issues⟩ := r
        rw [hparse] at hread
        cases hread
        exact ⟨_, mount_of_ok host s hjson hparse, rfl, rfl, rfl, rfl, rfl, rfl⟩

/-- A button that keeps a list under a key, spelled like a reference. -/
def misnamedReference : Json :=
  .obj [("renderType", .str "server-rendered"), ("definition", .obj [("type", .str "button"),
    ("children", .str "go"), ("events", .obj [("onClick", .obj [("stateUpdates",
      .obj [("a", .obj [("$template", .arr [])])])])])])]

/-- A reference by a container is not worked around, though it could be kept as it is. -/
theorem not_mount_tolerant :
    ¬ ∀ (host : Host Unit) (s : Session Unit) (d : Json),
      ∃ i, (mount host (.json d) s).1 = .ok i := by
  intro h
  let host : Host Unit := ⟨fun _ => "m", none, fun _ _ _ _ => .done⟩
  obtain ⟨i, hi⟩ := h host (new ()) misnamedReference
  have hfails : (mount host (.json misnamedReference) (new ())).1 = .error (.unhashable "list") :=
    rfl
  rw [hfails] at hi
  cases hi

end Session

end AssistantUI
