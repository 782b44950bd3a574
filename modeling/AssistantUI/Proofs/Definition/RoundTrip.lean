import AssistantUI.Proofs.Definition.Reading

/-!
# Reading what was written

A definition travels as JSON, and whoever receives it reads it with the same tolerance with
which it was read first. Tolerance must not eat anything on the second trip: writing leaves
out what is empty and writes nothing for an empty child, and reading has to put all of it
back, at the same places and in the same order.

The proof has two halves that meet at `Readable`. What is readable is read back as it was,
with an issue for every unknown action that it shows and no other (`parse_toJson`); and what
was read once is readable (`Content.readable_of_parse`).
-/

namespace AssistantUI

/-! ## Looking up members that may be left out -/

theorem find_optionalMember (k name : String) (j : Option Json) :
    Dict.find k (optionalMember name j) = if name = k then j else none := by
  cases j with
  | none => simp [optionalMember, Dict.find]
  | some j => simp [optionalMember, Dict.find]

theorem find_nonemptyMember (k name : String) (d : Dict String Json) :
    Dict.find k (nonemptyMember name d) =
      if name = k ∧ d.isEmpty = false then some (.ofDict d) else none := by
  unfold nonemptyMember
  by_cases hd : d.isEmpty = true
  · simp [hd, Dict.find]
  · simp [hd, Dict.find]

theorem find_toMember (k : String) (c : Content) :
    Dict.find k c.toMember =
      if "children" = k then (match c with | .empty => none | c => some c.toJson) else none := by
  cases c <;> simp [Content.toMember, Content.toJson, Dict.find]

/-! ## Events -/

namespace EventDescriptor

theorem parseUpdateEntries_toJson {l : List (String × UpdateValue)}
    (h : ∀ e ∈ l, e.2.Readable) :
    parseUpdateEntries (l.map fun e => (e.1, e.2.toJson)) = .ok l := by
  induction l with
  | nil => rfl
  | cons e rest ih =>
    have he : UpdateValue.ofJson e.2.toJson = .ok e.2 := h e List.mem_cons_self
    have hrest := ih fun e' he' => h e' (List.mem_cons_of_mem _ he')
    rw [List.map_cons, parseUpdateEntries, he, hrest]
    rfl

/-- An event that can be read back is read back. -/
theorem parse_toJson {d : EventDescriptor} (h : d.Readable) (pos : Position) :
    parse pos d.toJson = .ok (some d, d.unknownAction pos) := by
  obtain ⟨action, updates, emits, data⟩ := d
  have haction : parseAction pos ((action.map Json.str).getD .null) =
      .ok (action, unknownAction pos ⟨action, updates, emits, data⟩) := by
    cases action with
    | none => rfl
    | some a => by_cases ha : knownAction a = true <;> simp [parseAction, unknownAction, ha] <;> rfl
  have hupdates : parseUpdates pos
      ((updates.map fun u => Json.ofDict (u.map UpdateValue.toJson)).getD .null) =
      .ok (updates, []) := by
    cases updates with
    | none => rfl
    | some u =>
      have hu := parseUpdateEntries_toJson (h u rfl)
      simp only [Option.map_some, Option.getD_some, Json.ofDict, parseUpdates, Dict.entries_map, hu,
        Dict.ofList_entries]
      rfl
  have hemits : parseEmits pos ((emits.map Json.str).getD .null) = .ok (emits, []) := by
    cases emits <;> rfl
  have hdata : parseData pos ((data.map Json.ofDict).getD .null) = .ok (data, []) := by
    cases data with
    | none => rfl
    | some d => simp [parseData, Json.ofDict]; rfl
  have hrun : parse pos (toJson ⟨action, updates, emits, data⟩) =
      .ok (some ⟨action, updates, emits, data⟩,
        unknownAction pos ⟨action, updates, emits, data⟩ ++ ([] ++ ([] ++ ([] ++ [])))) := by
    rw [toJson, parse]
    simp only [Json.member, Dict.find_append, find_optionalMember, String.reduceEq, reduceIte,
      Option.or_none, Option.none_or]
    exact Parse.bind_ok haction (Parse.bind_ok hupdates (Parse.bind_ok hemits
      (Parse.bind_ok hdata rfl)))
  simpa using hrun

/-- Events that can be read back are read back, each under its name. -/
theorem parseEvents_toJson {ds : List (String × EventDescriptor)}
    (h : ∀ e ∈ ds, e.2.Readable) (base : Position) :
    parseEvents base (ds.map fun e => (e.1, e.2.toJson)) =
      .ok (ds, ds.flatMap fun e => e.2.unknownAction (base.under e.1)) := by
  induction ds with
  | nil => rfl
  | cons e rest ih =>
    have he := parse_toJson (h e List.mem_cons_self) (base.under e.1)
    have hrest := ih fun e' he' => h e' (List.mem_cons_of_mem _ he')
    have hrun : parseEvents base ((e :: rest).map fun e => (e.1, e.2.toJson)) =
        .ok (e :: rest, e.2.unknownAction (base.under e.1) ++
          ((rest.flatMap fun e => e.2.unknownAction (base.under e.1)) ++ [])) := by
      rw [List.map_cons, parseEvents]
      exact Parse.bind_ok he (Parse.bind_ok hrest rfl)
    simpa using hrun

end EventDescriptor

/-! ## Nodes and contents -/

namespace Node

/-- The members of the object that a node is written as. -/
def members (n : Node) : List (String × Json) :=
  [("type", .str n.type)] ++ nonemptyMember "props" n.props ++ n.children.toMember ++
    nonemptyMember "events" (n.events.map EventDescriptor.toJson) ++
    nonemptyMember "stateBindings" (n.bindings.map .str)

theorem toJson_eq (n : Node) : n.toJson = .obj n.members := by
  cases n; rfl

/-- A member that is left out because nothing is in it is read as nothing. -/
theorem member_nonempty (n : Node) (k : String) {d : Dict String Json}
    (h : Dict.find k n.members = if d.isEmpty = false then some (.ofDict d) else none) :
    (Json.member n.members k).membersOrNone = d.entries := by
  unfold Json.member
  rw [h]
  by_cases hd : d.isEmpty = true
  · have : d.entries = [] := List.isEmpty_iff.mp hd
    simp [hd, this, Json.membersOrNone]
  · simp [hd, Json.ofDict, Json.membersOrNone]

theorem membersOrNone_props (n : Node) :
    (Json.member n.members "props").membersOrNone = n.props.entries := by
  apply member_nonempty
  simp [members, Dict.find_append, find_nonemptyMember, find_toMember, Dict.find]

theorem membersOrNone_events (n : Node) :
    (Json.member n.members "events").membersOrNone =
      n.events.entries.map fun e => (e.1, e.2.toJson) := by
  apply member_nonempty (d := n.events.map EventDescriptor.toJson)
  simp [members, Dict.find_append, find_nonemptyMember, find_toMember, Dict.find]

theorem membersOrNone_bindings (n : Node) :
    (Json.member n.members "stateBindings").membersOrNone =
      n.bindings.entries.map fun e => (e.1, .str e.2) := by
  apply member_nonempty (d := n.bindings.map .str)
  simp [members, Dict.find_append, find_nonemptyMember, find_toMember, Dict.find]

/-- Children that are left out and children that are null are the same to a reader. -/
theorem member_children (n : Node) : Json.member n.members "children" = n.children.toJson := by
  unfold Json.member
  have h : Dict.find "children" n.members =
      (match n.children with | .empty => none | c => some c.toJson) := by
    simp [members, Dict.find_append, find_nonemptyMember, find_toMember, Dict.find]
  rw [h]
  cases n.children with
  | empty => rfl
  | _ => rfl

theorem parseProps_eq (j : Json) : parseProps j = Json.dict j.membersOrNone := by
  cases j <;> rfl

/-- Picking texts out of texts leaves none out. -/
theorem filterMap_texts {f : String × Json → Option (String × String)}
    (hf : ∀ k s, f (k, .str s) = some (k, s)) (l : List (String × String)) :
    (l.map fun e => (e.1, Json.str e.2)).filterMap f = l := by
  induction l with
  | nil => rfl
  | cons e rest ih => rw [List.map_cons, List.filterMap_cons, hf, ih]

theorem parseBindings_toJson (d : Dict String String) :
    parseBindings (d.entries.map fun e => (e.1, .str e.2)) = d := by
  unfold parseBindings
  rw [filterMap_texts fun _ _ => rfl]
  exact Dict.ofList_entries d

/--
A node whose events can be read back is read back, with whatever is read of its children: with the
issues of its events first and those of its children behind them.
-/
theorem parseWith_members {n : Node} (h : ∀ e ∈ n.events.entries, e.2.Readable)
    {pos : Position} {children : Parse Content} {c : Content} {js : List Issue}
    (hc : children = .ok (c, js)) :
    parseWith pos n.members children =
      .ok ({ n with children := c }, n.ownUnknownActions pos ++ js) := by
  have hevents := EventDescriptor.parseEvents_toJson h pos
  have htype : parseType pos (Json.member n.members "type") = .ok (n.type, []) := rfl
  have hrun : parseWith pos n.members children =
      .ok ({ n with children := c }, [] ++ (n.ownUnknownActions pos ++ (js ++ []))) := by
    unfold parseWith
    -- a part that was left out because it is empty is read as empty
    rw [membersOrNone_events, membersOrNone_bindings, parseProps_eq, membersOrNone_props,
      parseBindings_toJson, Json.dict_entries]
    refine Parse.bind_ok htype (Parse.bind_ok hevents (Parse.bind_ok hc ?_))
    rw [Dict.ofList_entries]
    rfl
  simpa using hrun

end Node

/-- The children among members are what the members hold under their name. -/
theorem Content.parseChildren_eq (depth : Int) (pos : Position) (members : List (String × Json)) :
    Content.parseChildren depth pos members =
      Content.parse depth pos (Json.member members "children") := by
  induction members with
  | nil => rfl
  | cons e rest ih =>
    obtain ⟨k, j⟩ := e
    rw [Content.parseChildren, Json.member, Dict.find]
    by_cases hk : k = "children"
    · simp [hk]
    · simp only [hk, if_false, beq_iff_eq]
      exact ih

mutual

/-- What can be read back at a depth is read back there. -/
theorem Content.parse_toJson (c : Content) {depth : Int} (h : c.Readable depth)
    (pos : Position) : Content.parse depth pos c.toJson = .ok (c, c.unknownActions pos) := by
  match c with
  | .empty => rfl
  | .text s => rfl
  | .single n =>
    obtain ⟨hdepth, hn⟩ := h
    have hrun : Content.parse depth pos (Content.single n).toJson =
        .ok (.single n, n.unknownActions pos ++ []) := by
      rw [Content.toJson, Node.toJson_eq, Content.parse, if_neg (by omega)]
      exact Parse.bind_ok (Node.parseWith_toJson n hn pos) rfl
    simpa [Content.unknownActions] using hrun
  | .many items =>
    obtain ⟨hdepth, hitems⟩ := h
    have hrun : Content.parse depth pos (Content.many items).toJson =
        .ok (.many items, Content.unknownActionsOfList pos 0 items ++ []) := by
      rw [Content.toJson, Content.parse, if_neg (by omega)]
      exact Parse.bind_ok (Content.parseItems_toJson items hitems pos 0) rfl
    simpa [Content.unknownActions] using hrun

/-- A node whose children can be read back at a depth is read back. -/
theorem Node.parseWith_toJson (n : Node) {depth : Int} (h : n.Readable depth) (pos : Position) :
    Node.parseWith pos n.members (Content.parseChildren depth pos n.members) =
      .ok (n, n.unknownActions pos) := by
  match n with
  | ⟨type, props, children, events, bindings⟩ =>
    obtain ⟨hevents, hchildren⟩ := h
    refine Node.parseWith_members hevents ?_
    rw [Content.parseChildren_eq, Node.member_children]
    exact Content.parse_toJson children hchildren pos

/-- Items that can be read back at a depth are read back, one by one. -/
theorem Content.parseItems_toJson (cs : List Content) {depth : Int}
    (h : Content.AllReadable depth cs) (pos : Position) (i : Nat) :
    Content.parseItems depth pos i (Content.toJsonList cs) =
      .ok (cs, Content.unknownActionsOfList pos i cs) := by
  match cs with
  | [] => rfl
  | c :: rest =>
    obtain ⟨hc, hrest⟩ := h
    have hrun : Content.parseItems depth pos i (Content.toJsonList (c :: rest)) =
        .ok (c :: rest, c.unknownActions (pos.item i) ++
          (Content.unknownActionsOfList pos (i + 1) rest ++ [])) := by
      rw [Content.toJsonList, Content.parseItems]
      exact Parse.bind_ok (Content.parse_toJson c hc (pos.item i))
        (Parse.bind_ok (Content.parseItems_toJson rest hrest pos (i + 1)) rfl)
    simpa [Content.unknownActionsOfList] using hrun

end

/-- A node that can be read back is read back on its own, and out of its envelope. -/
theorem Node.parse_toJson {n : Node} {depth : Int} (h : n.Readable depth) (pos : Position) :
    Node.parse depth pos n.toJson = .ok (n, n.unknownActions pos) := by
  rw [Node.toJson_eq]
  exact Node.parseWith_toJson n h pos

theorem Definition.parse_envelope {n : Node} {is : List Issue}
    (h : Node.parse 0 "" n.toJson = .ok (n, is)) :
    Definition.parse n.envelope = .ok (some (.tree n), is) := by
  have hrun : Definition.parse n.envelope = .ok (some (.tree n), is ++ []) := by
    rw [Node.toJson_eq] at h
    rw [Node.envelope, Node.toJson_eq]
    exact Parse.bind_ok h rfl
  simpa using hrun

/--
**Whatever node was read is read back.** The second reading finds the very same node, and
nothing wrong with it but the unknown actions that the first one noted, in the same order.
-/
theorem Node.parse_toJson_of_parse {raw : Json} (hraw : raw.hasDistinctKeys = true) {n : Node}
    {issues : List Issue} (h : Node.parse 0 "" raw = .ok (n, issues)) :
    Node.parse 0 "" n.toJson = .ok (n, issues.filter Issue.isActionUnknown) ∧
      Definition.parse n.envelope =
        .ok (some (.tree n), issues.filter Issue.isActionUnknown) := by
  cases raw with
  | obj members =>
    -- what was read is readable, and what is readable is read back
    obtain ⟨-, hmembers⟩ := Json.hasDistinctKeys_obj.mp hraw
    obtain ⟨hn, hissues⟩ := Node.unknownActions_of_parseWith hmembers
      (fun c js hc => Content.readable_of_parseChildren members hmembers hc) h
    rw [hissues]
    have hback := Node.parse_toJson hn ""
    exact ⟨hback, Definition.parse_envelope hback⟩
  | _ => exact absurd h (by simp [Node.parse, Parse.fail])

/--
A node without a type, with a broken event, an event whose action means nothing and children of
all kinds.
-/
def Json.brokenNode : Json :=
  .obj [("type", .int 5),
    ("events", .obj [("onFocus", .str "nope"), ("onClick", .obj [("action", .str "explode"),
      ("stateUpdates", .obj [("name", .str "\x7b\x7bevent.target.value\x7d\x7d")])])]),
    ("children", .arr [.null, .int 1, .arr [.bool true, .obj [("type", .str "p")]]])]

/-- It is read with three issues, and read back with the one about the action. -/
theorem Node.parse_toJson_of_parse_broken :
    Json.brokenNode.hasDistinctKeys = true ∧
      ∃ n issues, Node.parse 0 "" Json.brokenNode = .ok (n, issues) ∧ issues.length = 3 ∧
        Node.parse 0 "" n.toJson = .ok (n, [.actionUnknown "onClick" "explode"]) := by
  have hdistinct : Json.brokenNode.hasDistinctKeys = true := by decide
  have hread : Node.parse 0 "" Json.brokenNode = .ok (_, _) := rfl
  exact ⟨hdistinct, _, _, hread, rfl, (Node.parse_toJson_of_parse hdistinct hread).1⟩

end AssistantUI
