import AssistantUI.Proofs.Definition.Cut
import AssistantUI.Proofs.Definition.Issues

/-!
# The greatest depth

What lies too deep is left out, and the rest is read as if null stood there. To say so, the value
that is read is cut itself: `Json.cut` puts null in the place of every list and object that reading
meets below the greatest depth, and `Json.tooDeep` lists where these stood. The items of a list and
the children of an object lie one level below it; nothing else of an object is content, and is left
alone.

Reading the value and reading its cut go the same way (`trimmed_parse`): they give the same content,
and the issues differ by one for each part that was replaced. Texts and numbers are at home at any
depth, and what nests is bounded by what there is to the greatest depth (`shows_of_parse`).
-/

namespace AssistantUI

/-! ## Down to the greatest depth -/

namespace Json

mutual

/-- The value with null in place of all content that reading it at a depth leaves out. -/
def cut (depth : Int) (raw : Json) : Json :=
  match raw with
  | .null => .null
  | .bool b => .bool b
  | .int n => .int n
  | .float x => .float x
  | .str s => .str s
  | .arr items => if depth > maxDepth then .null else .arr (cutItems (depth + 1) items)
  | .obj members => if depth > maxDepth then .null else .obj (cutChildren (depth + 1) members)

/-- The items of a list, cut one by one. -/
def cutItems (depth : Int) (items : List Json) : List Json :=
  match items with
  | [] => []
  | j :: rest => cut depth j :: cutItems depth rest

/-- The members of an object, of which the children are cut. -/
def cutChildren (depth : Int) (members : List (String × Json)) : List (String × Json) :=
  match members with
  | [] => []
  | (k, j) :: rest =>
    if k = "children" then (k, cut depth j) :: rest else (k, j) :: cutChildren depth rest

end

mutual

/-- The positions of the parts in place of which null is put, in the order of reading. -/
def tooDeep (depth : Int) (pos : Position) (raw : Json) : List Position :=
  match raw with
  | .null => []
  | .bool _ => []
  | .int _ => []
  | .float _ => []
  | .str _ => []
  | .arr items => if depth > maxDepth then [pos] else tooDeepItems (depth + 1) pos 0 items
  | .obj members => if depth > maxDepth then [pos] else tooDeepChildren (depth + 1) pos members

/-- The same for the items of a list, which are numbered from `i`. -/
def tooDeepItems (depth : Int) (pos : Position) (i : Nat) (items : List Json) : List Position :=
  match items with
  | [] => []
  | j :: rest => tooDeep depth (pos.item i) j ++ tooDeepItems depth pos (i + 1) rest

/-- The same for the children of an object. -/
def tooDeepChildren (depth : Int) (pos : Position) (members : List (String × Json)) :
    List Position :=
  match members with
  | [] => []
  | (k, j) :: rest =>
    if k = "children" then tooDeep depth pos j else tooDeepChildren depth pos rest

end

mutual

/-- The texts and numbers that stand as content in a value, as they are shown. -/
def words (raw : Json) : List String :=
  match raw with
  | .null => []
  | .bool _ => []
  | .int n => [Json.display (.int n)]
  | .float x => [Json.display (.float x)]
  | .str s => [s]
  | .arr items => wordsOfItems items
  | .obj members => wordsOfChildren members

/-- The texts and numbers in the items of a list. -/
def wordsOfItems (items : List Json) : List String :=
  match items with
  | [] => []
  | j :: rest => words j ++ wordsOfItems rest

/-- The texts and numbers in the children of an object. -/
def wordsOfChildren (members : List (String × Json)) : List String :=
  match members with
  | [] => []
  | (k, j) :: rest => if k = "children" then words j else wordsOfChildren rest

end

/-- Only the children of an object are cut. -/
theorem member_cutChildren {k : String} (hk : k ≠ "children") (depth : Int)
    (members : List (String × Json)) : member (cutChildren depth members) k = member members k := by
  suffices hfind : Dict.find k (cutChildren depth members) = Dict.find k members by
    rw [member, hfind]
    rfl
  induction members with
  | nil => rw [cutChildren]
  | cons m rest ih =>
    obtain ⟨name, j⟩ := m
    rw [cutChildren]
    by_cases hname : name = "children"
    · simp [Dict.find, hname, hk.symm]
    · rw [if_neg hname, Dict.find, Dict.find, ih]

end Json

mutual

/-- The texts in a node, in order. -/
def Node.words (n : Node) : List String :=
  match n with
  | ⟨_, _, children, _, _⟩ => Content.words children

/-- The texts in a content, in order. -/
def Content.words (c : Content) : List String :=
  match c with
  | .empty => []
  | .text s => [s]
  | .single n => Node.words n
  | .many items => Content.wordsOfItems items

/-- The texts in items, in order. -/
def Content.wordsOfItems (cs : List Content) : List String :=
  match cs with
  | [] => []
  | c :: rest => Content.words c ++ Content.wordsOfItems rest

end

mutual

/-- How many lists and nodes are inside each other, the node included. -/
def Node.levels (n : Node) : Nat :=
  match n with
  | ⟨_, _, children, _, _⟩ => Content.levels children + 1

/-- How many lists and nodes are inside each other. -/
def Content.levels (c : Content) : Nat :=
  match c with
  | .empty => 0
  | .text _ => 0
  | .single n => Node.levels n
  | .many items => Content.levelsOfItems items + 1

/-- The most of all items. -/
def Content.levelsOfItems (cs : List Content) : Nat :=
  match cs with
  | [] => 0
  | c :: rest => max (Content.levels c) (Content.levelsOfItems rest)

end

/-! ## Reading a value and its cut -/

/-- That a part at a position was left out. -/
abbrev Issue.leftOut (pos : Position) : Issue := .tooDeep pos maxDepth.toNat

namespace Parse

variable {α β : Type}

/--
Of the issues that one of two steps meets, the other meets those that are not about depth; the rest
are about these positions. Apart from that they give the same.
-/
def Trimmed (p q : Parse α) (cuts : List Position) : Prop :=
  ∀ a is, p = .ok (a, is) →
    q = .ok (a, is.filter fun i => !i.isTruncation) ∧
      is.filter Issue.isTruncation = cuts.map Issue.leftOut

namespace Trimmed

/-- Where no issue is about depth, nothing differs. -/
theorem refl {p : Parse α} (h : Meets (fun i => !i.isTruncation) p) : Trimmed p p [] := by
  intro a is hp
  have hnone := h a is hp
  refine ⟨?_, List.filter_eq_nil_iff.mpr fun i hi => ?_⟩
  · rw [hp, List.filter_eq_self.mpr hnone]
  · simpa using hnone i hi

theorem bind {p q : Parse α} {f g : α → Parse β} {cuts cuts' : List Position}
    (hp : Trimmed p q cuts) (hf : ∀ a, Trimmed (f a) (g a) cuts') :
    Trimmed (p >>= f) (q >>= g) (cuts ++ cuts') := by
  intro b ks h
  obtain ⟨a, is, js, h₁, h₂, rfl⟩ := of_bind_ok h
  obtain ⟨hq, hcuts⟩ := hp a is h₁
  obtain ⟨hg, hcuts'⟩ := hf a b js h₂
  refine ⟨?_, ?_⟩
  · rw [List.filter_append]
    exact bind_ok hq hg
  · rw [List.filter_append, hcuts, hcuts', List.map_append]

theorem map {p q : Parse α} {cuts : List Position} (h : Trimmed p q cuts) (f : α → β) :
    Trimmed (p >>= fun a => pure (f a)) (q >>= fun a => pure (f a)) cuts := by
  have hbind := h.bind fun a => refl (Meets.pure (f a))
  rwa [List.append_nil] at hbind

/-- A part is left out, with an issue about it, where null gives none. -/
theorem leftOut (pos : Position) (a : α) :
    Trimmed (Parse.report (Issue.leftOut pos) >>= fun _ => pure a) (pure a) [pos] := by
  intro b is h
  obtain ⟨rfl, rfl⟩ := of_report_ok h
  exact ⟨rfl, rfl⟩

end Trimmed

end Parse

open Parse (Meets Trimmed)

theorem Issue.not_isTruncation_of_isOfEvent {i : Issue} (h : i.isOfEvent = true) :
    (!i.isTruncation) = true := by
  cases i with
  | tooDeep pos limit => exact absurd h (by simp [isOfEvent, code])
  | _ => rfl

theorem Node.trimmed_parseWith (depth : Int) (pos : Position) (members : List (String × Json))
    {p q : Parse Content} {cuts : List Position} (h : Trimmed p q cuts) :
    Trimmed (Node.parseWith pos members p)
      (Node.parseWith pos (Json.cutChildren depth members) q) cuts := by
  have htype : Meets (fun i => !i.isTruncation)
      (Node.parseType pos (Json.member members "type")) := by
    unfold Node.parseType
    split
    · exact .pure _
    · exact .leftOut rfl _
  have hevents : Meets (fun i => !i.isTruncation)
      (EventDescriptor.parseEvents pos (Json.member members "events").membersOrNone) :=
    (EventDescriptor.meets_parseEvents pos _).mono Issue.not_isTruncation_of_isOfEvent
  have hsame (k : String) (hk : k ≠ "children") := Json.member_cutChildren hk depth members
  unfold Node.parseWith
  rw [hsame "type" (by decide), hsame "events" (by decide), hsame "props" (by decide),
    hsame "stateBindings" (by decide)]
  exact (Trimmed.refl htype).bind fun type => (Trimmed.refl hevents).bind fun events => h.map _

mutual

theorem Content.trimmed_parse (raw : Json) (depth : Int) (pos : Position) :
    Trimmed (Content.parse depth pos raw) (Content.parse depth pos (raw.cut depth))
      (raw.tooDeep depth pos) := by
  match raw with
  | .null | .bool _ | .str _ | .int _ | .float _ => exact .refl (.pure _)
  | .obj members =>
    rw [Content.parse, Json.cut, Json.tooDeep]
    by_cases hdepth : depth > maxDepth
    · rw [if_pos hdepth, if_pos hdepth, if_pos hdepth]
      exact .leftOut pos _
    · rw [if_neg hdepth, if_neg hdepth, if_neg hdepth, Content.parse, if_neg hdepth]
      exact (Node.trimmed_parseWith (depth + 1) pos members
        (Content.trimmed_parseChildren members (depth + 1) pos)).map _
  | .arr items =>
    rw [Content.parse, Json.cut, Json.tooDeep]
    by_cases hdepth : depth > maxDepth
    · rw [if_pos hdepth, if_pos hdepth, if_pos hdepth]
      exact .leftOut pos _
    · rw [if_neg hdepth, if_neg hdepth, if_neg hdepth, Content.parse, if_neg hdepth]
      exact (Content.trimmed_parseItems items (depth + 1) pos 0).map _

theorem Content.trimmed_parseChildren (members : List (String × Json)) (depth : Int)
    (pos : Position) :
    Trimmed (Content.parseChildren depth pos members)
      (Content.parseChildren depth pos (Json.cutChildren depth members))
      (Json.tooDeepChildren depth pos members) := by
  match members with
  | [] => exact .refl (.pure _)
  | (k, j) :: rest =>
    rw [Content.parseChildren, Json.cutChildren, Json.tooDeepChildren]
    by_cases hk : k = "children"
    · rw [if_pos hk, if_pos hk, if_pos hk, Content.parseChildren, if_pos hk]
      exact Content.trimmed_parse j depth pos
    · rw [if_neg hk, if_neg hk, if_neg hk, Content.parseChildren, if_neg hk]
      exact Content.trimmed_parseChildren rest depth pos

theorem Content.trimmed_parseItems (items : List Json) (depth : Int) (pos : Position) (i : Nat) :
    Trimmed (Content.parseItems depth pos i items)
      (Content.parseItems depth pos i (Json.cutItems depth items))
      (Json.tooDeepItems depth pos i items) := by
  match items with
  | [] => exact .refl (.pure _)
  | j :: rest =>
    rw [Content.parseItems, Json.cutItems, Json.tooDeepItems, Content.parseItems]
    exact (Content.trimmed_parse j depth (pos.item i)).bind fun c =>
      (Content.trimmed_parseItems rest depth pos (i + 1)).map (c :: ·)

end

/-! ## What is left -/

theorem Node.words_eq (n : Node) : n.words = n.children.words := by
  cases n
  rw [Node.words]

theorem Node.levels_eq (n : Node) : n.levels = n.children.levels + 1 := by
  cases n
  rw [Node.levels]

theorem Node.children_of_parseWith {pos : Position} {members : List (String × Json)}
    {children : Parse Content} {n : Node} {is : List Issue}
    (h : Node.parseWith pos members children = .ok (n, is)) :
    ∃ js, children = .ok (n.children, js) := by
  unfold Node.parseWith at h
  obtain ⟨type, is₁, js₁, h₁, k₁, rfl⟩ := Parse.of_bind_ok h
  obtain ⟨events, is₂, js₂, h₂, k₂, rfl⟩ := Parse.of_bind_ok k₁
  obtain ⟨content, js, js₃, h₃, k₃, rfl⟩ := Parse.of_bind_ok k₂
  obtain ⟨rfl, -⟩ := Parse.of_pure_ok k₃
  exact ⟨js, h₃⟩

mutual

/-- What was read says all that was not cut off, and nests no deeper than it may. -/
theorem Content.shows_of_parse (raw : Json) {depth : Int} {pos : Position} {c : Content}
    {is : List Issue} (h : Content.parse depth pos raw = .ok (c, is)) :
    c.words = (raw.cut depth).words ∧ (c.levels : Int) ≤ max 0 (maxDepth + 1 - depth) := by
  match raw with
  | .null | .bool _ | .int _ | .float _ | .str _ =>
    obtain ⟨rfl, -⟩ := Parse.of_pure_ok h
    exact ⟨rfl, Int.le_max_left 0 _⟩
  | .obj members =>
    rw [Content.parse] at h
    rw [Json.cut]
    split at h
    · next hdepth =>
      obtain ⟨rfl, -⟩ := Parse.of_report_ok h
      rw [if_pos hdepth]
      exact ⟨rfl, Int.le_max_left 0 _⟩
    · next hdepth =>
      obtain ⟨n, is₁, js₁, h₁, k₁, rfl⟩ := Parse.of_bind_ok h
      obtain ⟨rfl, -⟩ := Parse.of_pure_ok k₁
      obtain ⟨js, hchildren⟩ := Node.children_of_parseWith h₁
      obtain ⟨hwords, hlevels⟩ := Content.shows_of_parseChildren members hchildren
      rw [if_neg hdepth, Content.words, Node.words_eq, Content.levels, Node.levels_eq]
      exact ⟨hwords, by omega⟩
  | .arr items =>
    rw [Content.parse] at h
    rw [Json.cut]
    split at h
    · next hdepth =>
      obtain ⟨rfl, -⟩ := Parse.of_report_ok h
      rw [if_pos hdepth]
      exact ⟨rfl, Int.le_max_left 0 _⟩
    · next hdepth =>
      obtain ⟨cs, is₁, js₁, h₁, k₁, rfl⟩ := Parse.of_bind_ok h
      obtain ⟨rfl, -⟩ := Parse.of_pure_ok k₁
      obtain ⟨hwords, hlevels⟩ := Content.shows_of_parseItems items h₁
      rw [if_neg hdepth]
      refine ⟨hwords, ?_⟩
      rw [Content.levels]
      omega

/-- The same of the children of an object. -/
theorem Content.shows_of_parseChildren (members : List (String × Json)) {depth : Int}
    {pos : Position} {c : Content} {is : List Issue}
    (h : Content.parseChildren depth pos members = .ok (c, is)) :
    c.words = Json.wordsOfChildren (Json.cutChildren depth members) ∧
      (c.levels : Int) ≤ max 0 (maxDepth + 1 - depth) := by
  match members with
  | [] =>
    obtain ⟨rfl, -⟩ := Parse.of_pure_ok h
    exact ⟨rfl, Int.le_max_left 0 _⟩
  | (k, j) :: rest =>
    rw [Content.parseChildren] at h
    rw [Json.cutChildren]
    split at h
    · next hk =>
      rw [if_pos hk, Json.wordsOfChildren, if_pos hk]
      exact Content.shows_of_parse j h
    · next hk =>
      rw [if_neg hk, Json.wordsOfChildren, if_neg hk]
      exact Content.shows_of_parseChildren rest h

/-- The same of the items of a list. -/
theorem Content.shows_of_parseItems (items : List Json) {depth : Int} {pos : Position} {i : Nat}
    {cs : List Content} {is : List Issue}
    (h : Content.parseItems depth pos i items = .ok (cs, is)) :
    Content.wordsOfItems cs = Json.wordsOfItems (Json.cutItems depth items) ∧
      (Content.levelsOfItems cs : Int) ≤ max 0 (maxDepth + 1 - depth) := by
  match items with
  | [] =>
    obtain ⟨rfl, -⟩ := Parse.of_pure_ok h
    exact ⟨rfl, Int.le_max_left 0 _⟩
  | j :: rest =>
    rw [Content.parseItems] at h
    obtain ⟨c, is₁, js₁, h₁, k₁, rfl⟩ := Parse.of_bind_ok h
    obtain ⟨cs', is₂, js₂, h₂, k₂, rfl⟩ := Parse.of_bind_ok k₁
    obtain ⟨rfl, -⟩ := Parse.of_pure_ok k₂
    obtain ⟨hwords, hlevels⟩ := Content.shows_of_parse j h₁
    obtain ⟨hwords', hlevels'⟩ := Content.shows_of_parseItems rest h₂
    rw [Content.wordsOfItems, Json.cutItems, Json.wordsOfItems, hwords, hwords',
      Content.levelsOfItems]
    exact ⟨rfl, by omega⟩

end

/--
**A value is read as if null stood in place of all that lies too deep**, and for each part that is
left out so there is one issue, and no other difference. Texts and numbers stay wherever they are,
and no more levels are left than there are down to the greatest depth.
-/
theorem Content.parse_cut {raw : Json} {depth : Int} {pos : Position} {c : Content}
    {is : List Issue} (h : Content.parse depth pos raw = .ok (c, is)) :
    (∃ is', Content.parse depth pos (raw.cut depth) = .ok (c, is') ∧
      (∀ i ∈ is', i.isTruncation = false) ∧
      is.Perm (is' ++ (raw.tooDeep depth pos).map fun p => .tooDeep p 256)) ∧
    c.words = (raw.cut depth).words ∧
    (c.levels : Int) ≤ max 0 (257 - depth) := by
  obtain ⟨hcut, hissues⟩ := trimmed_parse raw depth pos c is h
  refine ⟨⟨_, hcut, fun i hi => ?_, ?_⟩, shows_of_parse raw h⟩
  · simpa using (List.mem_filter.mp hi).2
  · have hleft : is.filter Issue.isTruncation =
        (raw.tooDeep depth pos).map fun p => .tooDeep p 256 := hissues
    rw [← hleft]
    exact (List.filter_append_perm ..).symm.trans List.perm_append_comm

/-- A node whose children are read at the greatest depth, among them a list and an object. -/
def Json.deepNode : Json :=
  .obj [("type", .str "form"), ("events", .obj [("onClick", .null)]),
    ("children", .arr [.str "kept", .arr [.str "cut"], .int 5, .obj [("children", .str "cut")]])]

/-- Of the four children the two that could nest further are left out, and both are mentioned. -/
theorem Content.parse_cut_deepNode :
    let c : Content := .single ⟨"form", ∅, .many [.text "kept", .empty, .text "5", .empty], ∅, ∅⟩
    let issue : Issue := .descriptorNotObject "onClick" "NoneType"
    Content.parse 255 "" Json.deepNode = .ok (c, [issue, .tooDeep "1" 256, .tooDeep "3" 256]) ∧
    Json.deepNode.tooDeep 255 "" = ["1", "3"] ∧
    (∃ is', Content.parse 255 "" (Json.deepNode.cut 255) = .ok (c, is') ∧
      (∀ i ∈ is', i.isTruncation = false) ∧
      [issue, .tooDeep "1" 256, .tooDeep "3" 256].Perm
        (is' ++ (Json.deepNode.tooDeep 255 "").map fun p => .tooDeep p 256)) ∧
    c.words = (Json.deepNode.cut 255).words ∧ (c.levels : Int) ≤ max 0 (257 - 255) := by
  intro c issue
  have h : Content.parse 255 "" Json.deepNode =
      .ok (c, [issue, .tooDeep "1" 256, .tooDeep "3" 256]) := by rfl
  exact ⟨h, by rfl, parse_cut h⟩

end AssistantUI
