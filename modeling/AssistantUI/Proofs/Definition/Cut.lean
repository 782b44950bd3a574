import AssistantUI.Definition.Coercion
import AssistantUI.Proofs.Definition.RoundTrip
import AssistantUI.Proofs.Render.Callbacks

/-!
# What is left of a tree that was put together

A tree that code puts together can be deeper than any that was read, since the values it shows
may nest without end. Whoever receives it as JSON reads it down to the greatest depth and leaves
the rest out. `Content.cut` is what is left. It keeps every node at its chain with its own type,
props, events and bindings, and only drops what lies too deep.

So a tree whose updates can all be read back is read as its cut (`parse_toJson_cut`), and
whatever holds of all its events holds of those that are left.
-/

namespace AssistantUI

/-! ## All events of a tree -/

section

variable (P : String × EventDescriptor → Prop)

mutual

/-- Every event of the node and of the nodes below it has the property. -/
def Node.AllEvents (n : Node) : Prop :=
  match n with
  | ⟨_, _, children, events, _⟩ => (∀ e ∈ events.entries, P e) ∧ Content.AllEvents children

/-- Every event of every node of the content has the property. -/
def Content.AllEvents (c : Content) : Prop :=
  match c with
  | .empty => True
  | .text _ => True
  | .single n => Node.AllEvents n
  | .many items => Content.AllEventsOfItems items

/-- Every event of every node of the items has the property. -/
def Content.AllEventsOfItems (cs : List Content) : Prop :=
  match cs with
  | [] => True
  | c :: rest => Content.AllEvents c ∧ Content.AllEventsOfItems rest

end

end

variable {P : String × EventDescriptor → Prop}

theorem Node.allEvents_iff {n : Node} :
    n.AllEvents P ↔ (∀ e ∈ n.events.entries, P e) ∧ n.children.AllEvents P := by
  cases n
  rw [Node.AllEvents]

theorem Content.allEventsOfItems_iff {cs : List Content} :
    Content.AllEventsOfItems P cs ↔ ∀ c ∈ cs, c.AllEvents P := by
  induction cs with
  | nil => simp [AllEventsOfItems]
  | cons c rest ih => simp [AllEventsOfItems, ih]

theorem Content.allEvents_many {cs : List Content} :
    (Content.many cs).AllEvents P ↔ ∀ c ∈ cs, c.AllEvents P := by
  rw [AllEvents, allEventsOfItems_iff]

theorem Content.allEvents_ofChildren {cs : List Content} (h : ∀ c ∈ cs, c.AllEvents P) :
    (Content.ofChildren cs).AllEvents P := by
  match cs with
  | [] => exact trivial
  | [c] => exact h c (List.mem_singleton_self c)
  | c :: d :: rest => exact allEvents_many.mpr h

mutual

/-- Plain values are shown without any event. -/
theorem Content.allEvents_ofJson (j : Json) : (Content.ofJson j).AllEvents P := by
  match j with
  | .null | .bool _ | .int _ | .float _ | .str _ | .obj _ => exact trivial
  | .arr items => exact Content.allEvents_ofJsonList items

theorem Content.allEvents_ofJsonList (items : List Json) :
    Content.AllEventsOfItems P (Content.ofJsonList items) := by
  match items with
  | [] => exact trivial
  | j :: rest => exact ⟨Content.allEvents_ofJson j, Content.allEvents_ofJsonList rest⟩

end

mutual

theorem Node.event_of_mem_nodes (n : Node) (h : n.AllEvents P) (q : Chain) :
    ∀ e ∈ n.nodes q, ∀ event ∈ e.2.events.entries, P event := by
  match n with
  | ⟨type, props, children, events, bindings⟩ =>
    obtain ⟨hown, hchildren⟩ := h
    intro e he
    rw [Node.nodes] at he
    rcases List.mem_cons.mp he with rfl | he
    · exact hown
    · exact Content.event_of_mem_nodesBelow children hchildren q e he

theorem Content.event_of_mem_nodesBelow (c : Content) (h : c.AllEvents P) (q : Chain) :
    ∀ e ∈ c.nodesBelow q, ∀ event ∈ e.2.events.entries, P event := by
  match c with
  | .empty | .text _ => exact fun e he => absurd he (by simp [Content.nodesBelow])
  | .single n => exact Node.event_of_mem_nodes n h (q ++ [0])
  | .many items => exact Content.event_of_mem_nodesOfItems items h q 0

theorem Content.event_of_mem_nodes (c : Content) (h : c.AllEvents P) (q : Chain) :
    ∀ e ∈ c.nodes q, ∀ event ∈ e.2.events.entries, P event := by
  match c with
  | .empty | .text _ => exact fun e he => absurd he (by simp [Content.nodes])
  | .single n => exact Node.event_of_mem_nodes n h q
  | .many items => exact Content.event_of_mem_nodesOfItems items h q 0

theorem Content.event_of_mem_nodesOfItems (cs : List Content) (h : Content.AllEventsOfItems P cs)
    (q : Chain) (i : Nat) :
    ∀ e ∈ Content.nodesOfItems q i cs, ∀ event ∈ e.2.events.entries, P event := by
  match cs with
  | [] => exact fun e he => absurd he (by simp [Content.nodesOfItems])
  | c :: rest =>
    obtain ⟨hc, hrest⟩ := h
    intro e he
    rw [Content.nodesOfItems] at he
    rcases List.mem_append.mp he with he | he
    · exact Content.event_of_mem_nodes c hc (q ++ [i]) e he
    · exact Content.event_of_mem_nodesOfItems rest hrest q (i + 1) e he

end

theorem Content.dotFree_of_allEvents {c : Content}
    (h : c.AllEvents fun event => '.' ∉ event.1.toList) : c.DotFree := by
  intro e he name hname
  obtain ⟨event, hevent, rfl⟩ := List.mem_map.mp hname
  exact event_of_mem_nodes c h [] e he event hevent

/-! ## Down to the greatest depth -/

mutual

/-- The node with what is left of its children, where these are read at a depth. -/
def Node.cut (depth : Int) (n : Node) : Node :=
  match n with
  | ⟨type, props, children, events, bindings⟩ =>
    ⟨type, props, Content.cut depth children, events, bindings⟩

/-- What is left of a content that is read at a depth. -/
def Content.cut (depth : Int) (c : Content) : Content :=
  match c with
  | .empty => .empty
  | .text s => .text s
  | .single n => if depth > maxDepth then .empty else .single (Node.cut (depth + 1) n)
  | .many items => if depth > maxDepth then .empty else .many (Content.cutItems (depth + 1) items)

/-- What is left of the items of a list, one by one. -/
def Content.cutItems (depth : Int) (cs : List Content) : List Content :=
  match cs with
  | [] => []
  | c :: rest => Content.cut depth c :: Content.cutItems depth rest

end

theorem Node.cut_eq (depth : Int) (n : Node) :
    n.cut depth = { n with children := n.children.cut depth } := by
  cases n
  rw [Node.cut]

theorem Content.cutItems_eq_map (depth : Int) (cs : List Content) :
    Content.cutItems depth cs = cs.map (Content.cut depth) := by
  induction cs with
  | nil => rfl
  | cons c rest ih => rw [cutItems, List.map_cons, ih]

theorem Content.cut_single {depth : Int} (h : depth ≤ maxDepth) (n : Node) :
    (Content.single n).cut depth = .single (n.cut (depth + 1)) := by
  rw [cut, if_neg (by omega)]

theorem Content.cut_many {depth : Int} (h : depth ≤ maxDepth) (cs : List Content) :
    (Content.many cs).cut depth = .many (cs.map (Content.cut (depth + 1))) := by
  rw [cut, if_neg (by omega), cutItems_eq_map]

/-- Where every item is a node, every item that is left is one. -/
theorem Content.single_of_mem_cut {depth : Int} (hd : depth ≤ maxDepth) {cs : List Content}
    (h : ∀ c ∈ cs, ∃ n, c = .single n) : ∀ c ∈ cs.map (Content.cut depth), ∃ n, c = .single n := by
  intro c hc
  obtain ⟨c', hc', rfl⟩ := List.mem_map.mp hc
  obtain ⟨n, rfl⟩ := h c' hc'
  exact ⟨n.cut (depth + 1), cut_single hd n⟩

theorem Content.getElem?_cut {depth : Int} (hd : depth ≤ maxDepth) {cs : List Content} {k : Nat}
    {n : Node} (h : cs[k]? = some (.single n)) :
    (cs.map (Content.cut depth))[k]? = some (.single (n.cut (depth + 1))) := by
  rw [List.getElem?_map, h, Option.map_some, cut_single hd]

mutual

theorem Node.allEvents_cut (n : Node) (h : n.AllEvents P) (depth : Int) :
    (n.cut depth).AllEvents P := by
  match n with
  | ⟨type, props, children, events, bindings⟩ =>
    obtain ⟨hown, hchildren⟩ := h
    exact ⟨hown, Content.allEvents_cut children hchildren depth⟩

theorem Content.allEvents_cut (c : Content) (h : c.AllEvents P) (depth : Int) :
    (c.cut depth).AllEvents P := by
  match c with
  | .empty | .text _ => exact trivial
  | .single n =>
    rw [Content.cut]
    split
    · exact trivial
    · exact Node.allEvents_cut n h (depth + 1)
  | .many items =>
    rw [Content.cut]
    split
    · exact trivial
    · exact Content.allEventsOfItems_cut items h (depth + 1)

theorem Content.allEventsOfItems_cut (cs : List Content) (h : Content.AllEventsOfItems P cs)
    (depth : Int) : Content.AllEventsOfItems P (Content.cutItems depth cs) := by
  match cs with
  | [] => exact trivial
  | c :: rest =>
    obtain ⟨hc, hrest⟩ := h
    exact ⟨Content.allEvents_cut c hc depth, Content.allEventsOfItems_cut rest hrest depth⟩

end

/-! ## Reading what was written -/

/-- Is the issue about a part that lies too deep? -/
def Issue.isTruncation : Issue → Bool
  | tooDeep .. => true
  | _ => false

theorem getElem?_append_text {s t : String} {k : Nat} {c : Char} (h : s.toList[k]? = some c) :
    (s ++ t).toList[k]? = some c := by
  obtain ⟨hk, -⟩ := List.getElem?_eq_some_iff.mp h
  rw [String.toList_append, List.getElem?_append_left hk, h]

/-- It is the one that is worded so. -/
theorem Issue.isTruncation_iff (i : Issue) : i.isTruncation = true ↔
    i.code = "definition.malformed" ∧ ∃ limit : Nat,
      i.message = "Definition nested deeper than " ++ toString limit ++ " levels; truncated" := by
  constructor
  · intro h
    cases i with
    | tooDeep pos limit => exact ⟨rfl, limit, rfl⟩
    | _ => exact absurd h (by simp [isTruncation])
  · rintro ⟨hcode, limit, h⟩
    -- the wordings under this code differ in their first word, or in their second one
    have hsecond : i.message.toList[11]? = some 'n' := by
      rw [h]
      exact getElem?_append_text (getElem?_append_text rfl)
    have other (s : String) (hs : i.message = s) (hne : s.toList[11]? ≠ some 'n') :
        i.isTruncation = true := absurd (hs ▸ hsecond) hne
    cases i with
    | tooDeep pos limit => rfl
    | definitionNotObject kind =>
      have hmust : ("Definition must be an object, got " ++ kind).toList[11]? = some 'm' :=
        getElem?_append_text (by decide)
      exact other _ rfl (hmust ▸ by decide)
    | typeNotText pos type => exact other "Node without a string type" rfl (by decide)
    | envelopeEmpty => exact other "Server-rendered envelope without a definition" rfl (by decide)
    | shapeUnknown => exact other "Unrecognized definition shape" rfl (by decide)
    | _ => exact absurd hcode (by simp [code])

/-- The update of an event can be read back. -/
abbrev ReadableEvent (e : String × EventDescriptor) : Prop := e.2.Readable

mutual

theorem Content.parse_toJson_cut (c : Content) (h : c.AllEvents ReadableEvent) (depth : Int)
    (pos : Position) : ∃ is, Content.parse depth pos c.toJson = .ok (c.cut depth, is) ∧
      ((∀ i ∈ is, i.isTruncation = false) → c.Readable depth) := by
  match c with
  | .empty => exact ⟨[], rfl, fun _ => trivial⟩
  | .text s => exact ⟨[], rfl, fun _ => trivial⟩
  | .single n =>
    obtain ⟨is, hn, hread⟩ := Node.parseWith_toJson_cut n h (depth + 1) pos
    rw [Content.toJson, Node.toJson_eq, Content.parse, Content.cut]
    split
    · refine ⟨[.tooDeep pos maxDepth.toNat] ++ [], Parse.bind_ok rfl rfl, fun hnone => ?_⟩
      exact absurd (hnone _ List.mem_cons_self) (by simp [Issue.isTruncation])
    · next hdepth =>
      refine ⟨is ++ [], Parse.bind_ok hn rfl, fun hnone => ⟨by omega, hread fun i hi => ?_⟩⟩
      exact hnone i (List.mem_append_left _ hi)
  | .many items =>
    obtain ⟨is, hitems, hread⟩ := Content.parseItems_toJson_cut items h (depth + 1) pos 0
    rw [Content.toJson, Content.parse, Content.cut]
    split
    · refine ⟨[.tooDeep pos maxDepth.toNat] ++ [], Parse.bind_ok rfl rfl, fun hnone => ?_⟩
      exact absurd (hnone _ List.mem_cons_self) (by simp [Issue.isTruncation])
    · next hdepth =>
      refine ⟨is ++ [], Parse.bind_ok hitems rfl, fun hnone => ⟨by omega, hread fun i hi => ?_⟩⟩
      exact hnone i (List.mem_append_left _ hi)

theorem Node.parseWith_toJson_cut (n : Node) (h : n.AllEvents ReadableEvent) (depth : Int)
    (pos : Position) : ∃ is,
      Node.parseWith pos n.members (Content.parseChildren depth pos n.members) =
        .ok (n.cut depth, is) ∧
      ((∀ i ∈ is, i.isTruncation = false) → n.Readable depth) := by
  match n with
  | ⟨type, props, children, events, bindings⟩ =>
    obtain ⟨hown, hchildren⟩ := h
    obtain ⟨is, hc, hread⟩ := Content.parse_toJson_cut children hchildren depth pos
    have hbelow : Content.parseChildren depth pos
        (Node.members ⟨type, props, children, events, bindings⟩) =
        .ok (children.cut depth, is) := by
      rw [Content.parseChildren_eq, Node.member_children]
      exact hc
    refine ⟨_, Node.parseWith_members hown hbelow, fun hnone => ⟨hown, hread fun i hi => ?_⟩⟩
    exact hnone i (List.mem_append_right _ hi)

theorem Content.parseItems_toJson_cut (cs : List Content)
    (h : Content.AllEventsOfItems ReadableEvent cs) (depth : Int) (pos : Position) (i : Nat) :
    ∃ is, Content.parseItems depth pos i (Content.toJsonList cs) =
        .ok (Content.cutItems depth cs, is) ∧
      ((∀ i ∈ is, i.isTruncation = false) → Content.AllReadable depth cs) := by
  match cs with
  | [] => exact ⟨[], rfl, fun _ => trivial⟩
  | c :: rest =>
    obtain ⟨hc, hrest⟩ := h
    obtain ⟨is, hcut, hread⟩ := Content.parse_toJson_cut c hc depth (pos.item i)
    obtain ⟨js, hcuts, hreads⟩ := Content.parseItems_toJson_cut rest hrest depth pos (i + 1)
    refine ⟨is ++ (js ++ []), Parse.bind_ok hcut (Parse.bind_ok hcuts rfl), fun hnone => ⟨?_, ?_⟩⟩
    · exact hread fun i hi => hnone i (List.mem_append_left _ hi)
    · exact hreads fun i hi => hnone i (List.mem_append_right _ (List.mem_append_left _ hi))

end

/--
**A tree in its envelope is read as what is left of it**, if all its updates can be read. Where
nothing is said to be left out, nothing was.
-/
theorem Definition.parse_envelope_cut {root : Node} (h : root.AllEvents ReadableEvent) :
    ∃ is, Definition.parse root.envelope = .ok (some (.tree (root.cut 0)), is) ∧
      ((∀ i ∈ is, i.isTruncation = false) → root.Readable 0) := by
  obtain ⟨is, hroot, hread⟩ := Node.parseWith_toJson_cut root h 0 ""
  refine ⟨is ++ [], ?_, fun hnone => hread fun i hi => hnone i (List.mem_append_left _ hi)⟩
  rw [Node.envelope, Node.toJson_eq]
  exact Parse.bind_ok (p := Node.parse 0 "" (.obj root.members)) hroot rfl

end AssistantUI
