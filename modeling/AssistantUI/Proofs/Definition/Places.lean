import AssistantUI.Proofs.Definition.Tolerance
import AssistantUI.Proofs.Dict
import AssistantUI.Proofs.Render.Chain

/-!
# Places in a definition

A definition may be given as any JSON, so whatever stands at some place of it may be wrong in its
own way. To say that this concerns nothing else, a place is described by what is around it: the
steps that lead there, each with what it passes on either side. The same steps lead to a place of
a value and to one of the content that the value is read as, and later to one of what is shown;
only what they pass is of another kind (`Way`).

Reading keeps a place where it is. What is made of a value with something at a place is what is
made of that, put at the same place of what is made of the rest (`Content.salvage_fill`), unless
the place lies too deep to be read at all.
-/

namespace AssistantUI

/-! ## Ways -/

/-- A step towards a place inside something. -/
inductive Frame (ν α : Type) where
  /-- Into the children of a node. -/
  | children (node : ν)
  /-- To an item of a list, with the items before and after it. -/
  | item (before after : List α)

/-- The steps that lead to a place, the outermost first. -/
abbrev Way (ν α : Type) : Type := List (Frame ν α)

namespace Way

variable {ν α : Type}

/-- What there is with something at the place, where nodes and lists are put together like this. -/
def fill (node : ν → α → α) (list : List α → α) : Way ν α → α → α
  | [], a => a
  | .children n :: rest, a => node n (fill node list rest a)
  | .item before after :: rest, a => list (before ++ fill node list rest a :: after)

mutual

/-- The indices that lead from a content to a place in it. -/
def chain : Way ν α → Chain
  | [] => []
  | .children _ :: rest => chainBelow rest
  | .item before _ :: rest => before.length :: chain rest

/-- The indices that lead there from the node whose children the content is. An only child is
item 0 there. -/
def chainBelow : Way ν α → Chain
  | [] => []
  | .children _ :: rest => 0 :: chainBelow rest
  | .item before _ :: rest => before.length :: chain rest

end

end Way

/-! ## Places in a value -/

/-- The members of an object around the one that is found under a key. -/
structure Json.Around (key : String) where
  before : List (String × Json)
  after : List (String × Json)
  not_before : key ∉ before.map Prod.fst

namespace Json.Around

variable {key : String} (a : Around key)

/-- All members, with a value under the key. -/
def members (j : Json) : List (String × Json) := a.before ++ (key, j) :: a.after

/-- The object with a value under the key. -/
def fill (j : Json) : Json := .obj (a.members j)

theorem find_before : Dict.find key a.before = none := by
  obtain ⟨before, after, hkeys⟩ := a
  dsimp only
  induction before with
  | nil => rfl
  | cons e rest ih =>
    rw [List.map_cons, List.mem_cons, not_or] at hkeys
    have hne : ¬(e.1 == key) = true := fun h => hkeys.1 (beq_iff_eq.mp h).symm
    rw [Dict.find, if_neg hne]
    exact ih hkeys.2

theorem member_members (j : Json) : Json.member (a.members j) key = j := by
  have hself : Dict.find key ((key, j) :: a.after) = some j := by
    rw [Dict.find, if_pos (beq_iff_eq.mpr rfl)]
  rw [Json.member, members, Dict.find_append, a.find_before, hself]
  rfl

/-- The other members are not concerned. -/
theorem member_members_of_ne {k : String} (hk : key ≠ k) (j : Json) :
    Json.member (a.members j) k = Json.member (a.before ++ a.after) k := by
  have hother : Dict.find k ((key, j) :: a.after) = Dict.find k a.after := by
    rw [Dict.find, if_neg fun h => hk (beq_iff_eq.mp h)]
  rw [Json.member, Json.member, members, Dict.find_append, Dict.find_append, hother]

end Json.Around

/-- A way to a place in the tree that a value describes. -/
abbrev Json.Path : Type := Way (Json.Around "children") Json

/-- The value with something at the place. -/
def Json.Path.fill (way : Json.Path) (j : Json) : Json :=
  Way.fill Json.Around.fill .arr way j

/-- A way to a place in a content. What a node on the way has as children does not count. -/
abbrev Content.Path : Type := Way Node Content

/-- The content with something at the place. -/
def Content.Path.fill (way : Content.Path) (c : Content) : Content :=
  Way.fill (fun n c => .single { n with children := c }) .many way c

/-! ## What is read around a place -/

/-- The node around its children. -/
def Json.Around.node (a : Json.Around "children") : Node :=
  Node.salvageWith (a.before ++ a.after) .empty

theorem Json.Around.salvageWith_members (a : Json.Around "children") (j : Json) (c : Content) :
    Node.salvageWith (a.members j) c = { a.node with children := c } := by
  have hmember (k : String) (hk : "children" ≠ k) := a.member_members_of_ne hk j
  simp only [node, Node.salvageWith, hmember "type" (by decide), hmember "props" (by decide),
    hmember "events" (by decide), hmember "stateBindings" (by decide)]

theorem Json.Around.salvageChildren_members (a : Json.Around "children") (depth : Int) (j : Json) :
    Content.salvageChildren depth (a.members j) = Content.salvage depth j := by
  obtain ⟨before, after, hkeys⟩ := a
  unfold members
  dsimp only
  induction before with
  | nil => rw [List.nil_append, Content.salvageChildren, if_pos rfl]
  | cons e rest ih =>
    rw [List.map_cons, List.mem_cons, not_or] at hkeys
    rw [List.cons_append, Content.salvageChildren, if_neg (Ne.symm hkeys.1)]
    exact ih hkeys.2

theorem Content.salvageItems_append (depth : Int) (before : List Json) (j : Json)
    (after : List Json) :
    salvageItems depth (before ++ j :: after) =
      salvageItems depth before ++ salvage depth j :: salvageItems depth after := by
  induction before with
  | nil => rw [List.nil_append, salvageItems, salvageItems, List.nil_append]
  | cons i rest ih => rw [List.cons_append, salvageItems, salvageItems, ih, List.cons_append]

theorem Content.length_salvageItems (depth : Int) (items : List Json) :
    (salvageItems depth items).length = items.length := by
  induction items with
  | nil => rfl
  | cons j rest ih => rw [salvageItems, List.length_cons, ih, List.length_cons]

namespace Json.Path

/-- What is made of everything around the place, where the way starts at a depth. -/
def salvage (depth : Int) : Json.Path → Content.Path
  | [] => []
  | .children a :: rest => .children a.node :: salvage (depth + 1) rest
  | .item before after :: rest =>
    .item (Content.salvageItems (depth + 1) before) (Content.salvageItems (depth + 1) after) ::
      salvage (depth + 1) rest

/-- The place stays where it is. -/
theorem chain_salvage (way : Json.Path) (depth : Int) :
    (way.salvage depth).chain = way.chain ∧ (way.salvage depth).chainBelow = way.chainBelow := by
  induction way generalizing depth with
  | nil => exact ⟨rfl, rfl⟩
  | cons f rest ih =>
    obtain ⟨hchain, hbelow⟩ := ih (depth + 1)
    cases f with
    | children a =>
      rw [salvage, Way.chain, Way.chain, Way.chainBelow,
        Way.chainBelow, hbelow]
      exact ⟨rfl, rfl⟩
    | item before after =>
      rw [salvage, Way.chain, Way.chain, Way.chainBelow,
        Way.chainBelow, hchain, Content.length_salvageItems]
      exact ⟨rfl, rfl⟩

end Json.Path

/-- What is made of a value with something at a place is what is made of that, at its place. -/
theorem Content.salvage_fill (way : Json.Path) (depth : Int)
    (hdepth : depth + way.length ≤ maxDepth + 1) (j : Json) :
    salvage depth (way.fill j) = (way.salvage depth).fill (salvage (depth + way.length) j) := by
  induction way generalizing depth with
  | nil =>
    rw [List.length_nil, Int.natCast_zero, Int.add_zero]
    rfl
  | cons f rest ih =>
    rw [List.length_cons, Int.natCast_add] at hdepth ⊢
    have hsum : depth + 1 + rest.length = depth + (rest.length + (1 : Nat)) := by omega
    have hread : ¬depth > maxDepth := by omega
    have hrest := ih (depth + 1) (by omega)
    rw [hsum] at hrest
    cases f with
    | children a =>
      show salvage depth (a.fill (Json.Path.fill rest j)) = _
      rw [Json.Around.fill, salvage, if_neg hread, a.salvageChildren_members,
        a.salvageWith_members, hrest]
      rfl
    | item before after =>
      show salvage depth (.arr (before ++ Json.Path.fill rest j :: after)) = _
      rw [salvage, if_neg hread, salvageItems_append, hrest]
      rfl

/-- A place that lies too deep is not read. -/
theorem Content.salvage_fill_of_deep (way : Json.Path) (depth : Int)
    (hdepth : maxDepth + 1 < depth + way.length) (hway : depth ≤ maxDepth + 1) (j j' : Json) :
    salvage depth (way.fill j) = salvage depth (way.fill j') := by
  induction way generalizing depth with
  | nil =>
    rw [List.length_nil] at hdepth
    omega
  | cons f rest ih =>
    rw [List.length_cons, Int.natCast_add] at hdepth
    by_cases hread : depth > maxDepth
    · -- nothing is read from here on
      cases f with
      | children a =>
        show salvage depth (.obj _) = salvage depth (.obj _)
        rw [salvage, if_pos hread, salvage, if_pos hread]
      | item before after =>
        show salvage depth (.arr _) = salvage depth (.arr _)
        rw [salvage, if_pos hread, salvage, if_pos hread]
    · have hrest := ih (depth + 1) (by omega) (by omega)
      cases f with
      | children a =>
        show salvage depth (a.fill _) = salvage depth (a.fill _)
        rw [Json.Around.fill, Json.Around.fill, salvage, salvage, a.salvageChildren_members,
          a.salvageChildren_members, a.salvageWith_members, a.salvageWith_members]
        rw [show salvage (depth + 1) (Way.fill _ _ rest j) = _ from hrest]
        rfl
      | item before after =>
        show salvage depth (.arr (before ++ Json.Path.fill rest j :: after)) =
          salvage depth (.arr (before ++ Json.Path.fill rest j' :: after))
        rw [salvage, salvage, salvageItems_append, salvageItems_append, hrest]

/-! ## Slots of a definition -/

/-- A place for an item among the children of some node of a tree, however deep, in its envelope. -/
structure Slot where
  envelope : Json.Around "definition"
  isTree : Json.member (envelope.before ++ envelope.after) "renderType" = .str treeMarker
  root : Json.Around "children"
  /-- From the children of the root to the list in which the item is. -/
  way : Json.Path
  before : List Json
  after : List Json

namespace Slot

/-- The whole way, from the root on. -/
def path (slot : Slot) : Json.Path :=
  .children slot.root :: (slot.way ++ [.item slot.before slot.after])

/-- The definition with an item at the place. -/
def fill (slot : Slot) (x : Json) : Json := slot.envelope.fill (slot.path.fill x)

/-- The indices that lead to the item. -/
def chain (slot : Slot) : Chain := slot.path.chain

/-- The depth at which the item lies; the children of the root lie at 0. -/
def depth (slot : Slot) : Int := -1 + slot.path.length

/-- Is the list in which the item is read at all? -/
def isRead (slot : Slot) : Bool := decide (slot.depth ≤ maxDepth + 1)

theorem chain_ne_nil (slot : Slot) : slot.chain ≠ [] := by
  have hitem : ∀ way : Json.Path, Way.chain (way ++ [.item slot.before slot.after]) ≠ [] ∧
      Way.chainBelow (way ++ [.item slot.before slot.after]) ≠ [] := by
    intro way
    induction way with
    | nil => exact ⟨List.cons_ne_nil _ _, List.cons_ne_nil _ _⟩
    | cons f rest ih =>
      cases f with
      | children a => exact ⟨ih.2, List.cons_ne_nil _ _⟩
      | item before after => exact ⟨List.cons_ne_nil _ _, List.cons_ne_nil _ _⟩
  exact (hitem slot.way).2

/-- The tree that is read is made of the root and what is below it. -/
theorem salvage_path (slot : Slot) {x : Json} {root : Node} {issues : List Issue}
    (h : Definition.parse (slot.fill x) = .ok (some (.tree root), issues)) :
    Content.single root = Content.salvage (-1) (slot.path.fill x) := by
  have hvalue := Definition.value?_parse (slot.fill x)
  rw [h] at hvalue
  have hsalvage : Definition.salvage (slot.fill x) = some (.tree root) := by
    cases hfault : Definition.fault? (slot.fill x) with
    | some f =>
      rw [hfault] at hvalue
      cases hvalue
    | none =>
      rw [hfault] at hvalue
      exact (Except.ok.inj hvalue).symm
  have htree : Json.member (slot.envelope.members (slot.path.fill x)) "renderType" =
      .str treeMarker := by
    rw [slot.envelope.member_members_of_ne (by decide), slot.isTree]
  have hread : ¬(-1 : Int) > maxDepth := by decide
  rw [fill, Json.Around.fill, Definition.salvage, if_pos htree, slot.envelope.member_members]
    at hsalvage
  have hroot := Definition.tree.inj (Option.some.inj hsalvage)
  rw [← hroot]
  show _ = Content.salvage (-1) (.obj _)
  rw [Content.salvage, if_neg hread]
  rfl

end Slot

end AssistantUI
