import Mathlib.Data.List.Forall2
import AssistantUI.Proofs.Definition.Cut

/-!
# The kinds of nodes in a tree

Of a node its type, its events and its bindings decide what it is and what it can do; its props and
the texts in it do not. `Content.kinds` lists these of all nodes of a content, parents before their
children, with whatever nesting of lists is between them left out.

Who puts a tree together from values of others can say of it which kinds there are, and that the
values gave none: `Content.Shows` does so for one content. It says in the same breath how many
levels the nodes take, since those that lie too deep are lost when the tree is read back.
-/

namespace AssistantUI

/-- What decides how a node behaves. -/
structure Kind where
  type : String
  events : Dict String EventDescriptor
  bindings : Dict String String
  deriving DecidableEq

namespace Kind

/-- A node that does nothing. -/
def plain (tag : Tag) : Kind := ⟨tag.name, ∅, ∅⟩

end Kind

/-- The kind of a node. -/
def Node.kind (n : Node) : Kind := ⟨n.type, n.events, n.bindings⟩

mutual

/-- The kinds of a node and of the nodes below it. -/
def Node.kinds (n : Node) : List Kind :=
  match n with
  | ⟨type, _, children, events, bindings⟩ => ⟨type, events, bindings⟩ :: Content.kinds children

/-- The kinds of the nodes of a content. -/
def Content.kinds (c : Content) : List Kind :=
  match c with
  | .empty => []
  | .text _ => []
  | .single n => Node.kinds n
  | .many items => Content.kindsOfItems items

/-- The kinds of the nodes of a list, one content after another. -/
def Content.kindsOfItems (cs : List Content) : List Kind :=
  match cs with
  | [] => []
  | c :: rest => Content.kinds c ++ Content.kindsOfItems rest

end

theorem Node.kinds_eq (n : Node) : n.kinds = n.kind :: n.children.kinds := by
  cases n
  rw [Node.kinds]
  rfl

theorem Content.kindsOfItems_eq (cs : List Content) :
    Content.kindsOfItems cs = cs.flatMap Content.kinds := by
  induction cs with
  | nil => rfl
  | cons c rest ih => rw [kindsOfItems, List.flatMap_cons, ih]

theorem Content.kinds_many (cs : List Content) : (many cs).kinds = cs.flatMap Content.kinds := by
  rw [kinds, kindsOfItems_eq]

theorem Content.kinds_ofChildren (cs : List Content) :
    (ofChildren cs).kinds = cs.flatMap Content.kinds := by
  match cs with
  | [] => rfl
  | [c] => exact (List.append_nil c.kinds).symm
  | c :: d :: rest => exact kinds_many _

/-! ## Events by kind -/

section

variable {P : String × EventDescriptor → Prop}

mutual

theorem Node.allEvents_iff_kinds (n : Node) :
    n.AllEvents P ↔ ∀ k ∈ n.kinds, ∀ e ∈ k.events.entries, P e := by
  match n with
  | ⟨type, props, children, events, bindings⟩ =>
    rw [Node.AllEvents, Node.kinds, List.forall_mem_cons, Content.allEvents_iff_kinds children]

theorem Content.allEvents_iff_kinds (c : Content) :
    c.AllEvents P ↔ ∀ k ∈ c.kinds, ∀ e ∈ k.events.entries, P e := by
  match c with
  | .empty | .text _ => simp [Content.AllEvents, Content.kinds]
  | .single n =>
    rw [Content.AllEvents, Content.kinds]
    exact Node.allEvents_iff_kinds n
  | .many items =>
    rw [Content.AllEvents, Content.kinds]
    exact Content.allEventsOfItems_iff_kinds items

theorem Content.allEventsOfItems_iff_kinds (cs : List Content) :
    Content.AllEventsOfItems P cs ↔ ∀ k ∈ Content.kindsOfItems cs, ∀ e ∈ k.events.entries, P e := by
  match cs with
  | [] => simp [Content.AllEventsOfItems, Content.kindsOfItems]
  | c :: rest =>
    rw [Content.AllEventsOfItems, Content.kindsOfItems, List.forall_mem_append,
      Content.allEvents_iff_kinds c, Content.allEventsOfItems_iff_kinds rest]

end

theorem Node.AllEvents.imp {n : Node} (h : n.AllEvents P) {Q : String × EventDescriptor → Prop}
    (hPQ : ∀ e, P e → Q e) : n.AllEvents Q :=
  n.allEvents_iff_kinds.mpr fun k hk e he => hPQ e (n.allEvents_iff_kinds.mp h k hk e he)

end

/-- The event names no action, or one that does something. -/
def EventDescriptor.Understood (d : EventDescriptor) : Prop := ∀ pos, d.unknownAction pos = []

mutual

theorem Node.unknownActions_eq_nil (n : Node) (h : n.AllEvents fun e => e.2.Understood)
    (pos : Position) : n.unknownActions pos = [] := by
  match n with
  | ⟨type, props, children, events, bindings⟩ =>
    obtain ⟨hown, hchildren⟩ := h
    rw [Node.unknownActions, Content.unknownActions_eq_nil children hchildren pos, List.append_nil]
    exact List.flatMap_eq_nil_iff.mpr fun e he => hown e he _

theorem Content.unknownActions_eq_nil (c : Content) (h : c.AllEvents fun e => e.2.Understood)
    (pos : Position) : c.unknownActions pos = [] := by
  match c with
  | .empty | .text _ => rfl
  | .single n =>
    rw [Content.unknownActions]
    exact Node.unknownActions_eq_nil n h pos
  | .many items =>
    rw [Content.unknownActions]
    exact Content.unknownActionsOfList_eq_nil items h pos 0

theorem Content.unknownActionsOfList_eq_nil (cs : List Content)
    (h : Content.AllEventsOfItems (fun e => e.2.Understood) cs) (pos : Position) (i : Nat) :
    Content.unknownActionsOfList pos i cs = [] := by
  match cs with
  | [] => rfl
  | c :: rest =>
    obtain ⟨hc, hrest⟩ := h
    rw [Content.unknownActionsOfList, Content.unknownActions_eq_nil c hc,
      Content.unknownActionsOfList_eq_nil rest hrest]
    rfl

end

/-! ## Contents without nodes -/

mutual

/-- A value of others is shown without any node. -/
theorem Content.kinds_ofJson (j : Json) : (ofJson j).kinds = [] := by
  match j with
  | .null | .bool _ | .int _ | .float _ | .str _ | .obj _ => rfl
  | .arr items => exact Content.kinds_ofJsonList items

theorem Content.kinds_ofJsonList (items : List Json) : kindsOfItems (ofJsonList items) = [] := by
  match items with
  | [] => rfl
  | j :: rest =>
    rw [ofJsonList, kindsOfItems, Content.kinds_ofJson j, Content.kinds_ofJsonList rest]
    rfl

end

mutual

/-- What is left of a content without nodes has none. -/
theorem Content.kinds_cut_of_nil (c : Content) (h : c.kinds = []) (depth : Int) :
    (c.cut depth).kinds = [] := by
  match c with
  | .empty | .text _ => rfl
  | .single n => exact absurd h (by rw [kinds, Node.kinds_eq]; exact List.cons_ne_nil _ _)
  | .many items =>
    rw [cut]
    split
    · rfl
    · exact Content.kinds_cutItems_of_nil items h (depth + 1)

theorem Content.kinds_cutItems_of_nil (cs : List Content) (h : kindsOfItems cs = [])
    (depth : Int) : kindsOfItems (cutItems depth cs) = [] := by
  match cs with
  | [] => rfl
  | c :: rest =>
    obtain ⟨hc, hrest⟩ := List.append_eq_nil_iff.mp h
    rw [cutItems, kindsOfItems, Content.kinds_cut_of_nil c hc,
      Content.kinds_cutItems_of_nil rest hrest]
    rfl

end

/-! ## What a content shows -/

namespace Content

/-- The nodes of the content are of these kinds, and `h` levels are enough for all of them. -/
structure Shows (h : Nat) (ks : List Kind) (c : Content) : Prop where
  kinds : c.kinds = ks
  kinds_cut : ∀ depth : Int, depth + h ≤ maxDepth + 1 → (c.cut depth).kinds = ks

/-- The nodes of all contents together are of these kinds, and `h` levels are enough. -/
structure AllShow (h : Nat) (ks : List Kind) (cs : List Content) : Prop where
  kinds : cs.flatMap Content.kinds = ks
  kinds_cut : ∀ depth : Int, depth + h ≤ maxDepth + 1 →
    (cs.flatMap fun c => (c.cut depth).kinds) = ks

variable {h h' : Nat} {ks ks' : List Kind} {c : Content} {cs cs' : List Content}

theorem Shows.of_nil (hc : c.kinds = []) : c.Shows h [] :=
  ⟨hc, fun depth _ => kinds_cut_of_nil c hc depth⟩

theorem Shows.text (s : String) : (Content.text s).Shows h [] := .of_nil rfl

theorem Shows.ofJson (j : Json) : (Content.ofJson j).Shows h [] := .of_nil (kinds_ofJson j)

theorem Shows.mono (hc : c.Shows h ks) (hle : h ≤ h') : c.Shows h' ks :=
  ⟨hc.kinds, fun depth hd => hc.kinds_cut depth (by omega)⟩

theorem AllShow.nil : AllShow h [] [] := ⟨rfl, fun _ _ => rfl⟩

theorem AllShow.cons (hc : c.Shows h ks) (hcs : AllShow h ks' cs) :
    AllShow h (ks ++ ks') (c :: cs) where
  kinds := by rw [List.flatMap_cons, hc.kinds, hcs.kinds]
  kinds_cut depth hd := by rw [List.flatMap_cons, hc.kinds_cut depth hd, hcs.kinds_cut depth hd]

theorem AllShow.one (hc : c.Shows h ks) : AllShow h ks [c] := by
  have := AllShow.cons hc .nil
  rwa [List.append_nil] at this

theorem AllShow.append (hcs : AllShow h ks cs) (hcs' : AllShow h ks' cs') :
    AllShow h (ks ++ ks') (cs ++ cs') where
  kinds := by rw [List.flatMap_append, hcs.kinds, hcs'.kinds]
  kinds_cut depth hd := by
    rw [List.flatMap_append, hcs.kinds_cut depth hd, hcs'.kinds_cut depth hd]

/-- Contents one after another, each of which shows what its cause gives. -/
theorem AllShow.of_forall₂ {α : Type} {kinds : α → List Kind} {as : List α}
    (hcs : List.Forall₂ (fun a c => c.Shows h (kinds a)) as cs) :
    AllShow h (as.flatMap kinds) cs := by
  induction hcs with
  | nil => exact .nil
  | cons hc _ ih => exact .cons hc ih

/-- Lists of contents one after another. -/
theorem AllShow.flatten_of_forall₂ {α : Type} {kinds : α → List Kind} {as : List α}
    {parts : List (List Content)}
    (hparts : List.Forall₂ (fun a part => AllShow h (kinds a) part) as parts) :
    AllShow h (as.flatMap kinds) parts.flatten := by
  induction hparts with
  | nil => exact .nil
  | cons hpart _ ih => exact .append hpart ih

theorem AllShow.many (hcs : AllShow h ks cs) : (many cs).Shows (h + 1) ks where
  kinds := by rw [kinds_many, hcs.kinds]
  kinds_cut depth hd := by
    rw [cut_many (by omega), kinds_many, List.flatMap_map]
    exact hcs.kinds_cut (depth + 1) (by omega)

theorem AllShow.ofChildren (hcs : AllShow h ks cs) : (ofChildren cs).Shows (h + 1) ks := by
  match cs with
  | [] =>
    obtain rfl : [] = ks := hcs.kinds
    exact .of_nil rfl
  | [c] =>
    refine ⟨by rw [kinds_ofChildren, hcs.kinds], fun depth hd => ?_⟩
    have hc := hcs.kinds_cut depth (by omega)
    rwa [List.flatMap_cons, List.flatMap_nil, List.append_nil] at hc
  | c :: d :: rest => exact hcs.many

/-- A node shows its own kind before what is below it. -/
theorem Shows.single {n : Node} {k : Kind} (hk : n.kind = k) (hn : n.children.Shows h ks) :
    (single n).Shows (h + 1) (k :: ks) where
  kinds := by rw [Content.kinds, Node.kinds_eq, hn.kinds, hk]
  kinds_cut depth hd := by
    rw [cut_single (by omega), Content.kinds, Node.kinds_eq, Node.cut_eq, ← hk]
    exact congrArg (n.kind :: ·) (hn.kinds_cut (depth + 1) (by omega))

end Content

/-- If there are enough levels for it, the kinds of a tree are those of what is read back of it. -/
theorem Node.kinds_cut {root : Node} {h : Nat} {ks : List Kind}
    (hroot : (Content.single root).Shows h ks) (hdepth : h ≤ 258) :
    (root.cut 0).kinds = root.kinds := by
  -- the root is read as the children of an envelope one level above it would be
  have hcut := hroot.kinds_cut (-1) (by rw [maxDepth]; omega)
  rw [Content.cut_single (by decide), Content.kinds] at hcut
  have hkinds := hroot.kinds
  rw [Content.kinds] at hkinds
  exact hcut.trans hkinds.symm

end AssistantUI
