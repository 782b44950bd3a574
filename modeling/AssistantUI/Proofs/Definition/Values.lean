import AssistantUI.Proofs.Definition.Depth

/-!
# Values as content, put in and read

A plain value becomes content in two places. Whoever builds a definition puts it in as it is
(`Content.ofJson`), to any depth and with objects shown as text; whoever receives one reads it
(`Content.parse`), down to the greatest depth and with objects as nodes. Where there is no object
the two can only differ in depth, and they do so exactly if more lists are inside each other than
reading allows.

What was put in has no object left in it, so that its written form is a value of that kind, and one
that makes the same content (`Content.ofJson_toJson_ofJson`). That it is read back is then no other
question than whether the two ways agree on it.
-/

namespace AssistantUI

namespace Json

mutual

/-- How many lists are inside each other. What is in an object does not count, since an object
that is put in makes one text. -/
def listLevels (j : Json) : Nat :=
  match j with
  | .null => 0
  | .bool _ => 0
  | .int _ => 0
  | .float _ => 0
  | .str _ => 0
  | .arr items => listLevelsOfItems items + 1
  | .obj _ => 0

/-- The most of all items. -/
def listLevelsOfItems (items : List Json) : Nat :=
  match items with
  | [] => 0
  | j :: rest => max (listLevels j) (listLevelsOfItems rest)

end

mutual

/-- Is the value no object, and is there none among the items of its lists? -/
def isObjectFree (j : Json) : Bool :=
  match j with
  | .null => true
  | .bool _ => true
  | .int _ => true
  | .float _ => true
  | .str _ => true
  | .arr items => areObjectFree items
  | .obj _ => false

/-- Are all items free of objects? -/
def areObjectFree (items : List Json) : Bool :=
  match items with
  | [] => true
  | j :: rest => isObjectFree j && areObjectFree rest

end

end Json

/-! ## What was put in -/

mutual

/-- Lists become lists, and nothing else that is put in has levels. -/
theorem Content.levels_ofJson (j : Json) : (ofJson j).levels = j.listLevels := by
  match j with
  | .null | .bool _ | .int _ | .float _ | .str _ | .obj _ => rfl
  | .arr items =>
    rw [ofJson, levels, Json.listLevels, Content.levelsOfItems_ofJsonList items]

theorem Content.levelsOfItems_ofJsonList (items : List Json) :
    levelsOfItems (ofJsonList items) = Json.listLevelsOfItems items := by
  match items with
  | [] => rfl
  | j :: rest =>
    rw [ofJsonList, levelsOfItems, Json.listLevelsOfItems, Content.levels_ofJson j,
      Content.levelsOfItems_ofJsonList rest]

end

mutual

/-- The written form of what was put in has no object, and makes the same content again. -/
theorem Content.ofJson_toJson_ofJson (j : Json) :
    (ofJson j).toJson.isObjectFree = true ∧ ofJson (ofJson j).toJson = ofJson j := by
  match j with
  | .null | .bool _ | .int _ | .float _ | .str _ | .obj _ => exact ⟨rfl, rfl⟩
  | .arr items =>
    obtain ⟨hfree, hsame⟩ := Content.ofJsonList_toJsonList_ofJsonList items
    rw [ofJson, toJson, ofJson, hsame]
    exact ⟨hfree, rfl⟩

theorem Content.ofJsonList_toJsonList_ofJsonList (items : List Json) :
    Json.areObjectFree (toJsonList (ofJsonList items)) = true ∧
      ofJsonList (toJsonList (ofJsonList items)) = ofJsonList items := by
  match items with
  | [] => exact ⟨rfl, rfl⟩
  | j :: rest =>
    obtain ⟨hfree, hsame⟩ := Content.ofJson_toJson_ofJson j
    obtain ⟨hfrees, hsames⟩ := Content.ofJsonList_toJsonList_ofJsonList rest
    rw [ofJsonList, toJsonList, Json.areObjectFree, hfree, hfrees, ofJsonList, hsame, hsames]
    exact ⟨rfl, rfl⟩

end

/-! ## What is read -/

mutual

/-- A value without objects is read as it would be put in, if there are enough levels for it. -/
theorem Content.parse_of_isObjectFree (j : Json) (h : j.isObjectFree = true) (depth : Int)
    (hdepth : depth + j.listLevels ≤ maxDepth + 1) (pos : Position) :
    Content.parse depth pos j = .ok (ofJson j, []) := by
  match j with
  | .null | .bool _ | .int _ | .float _ | .str _ => rfl
  | .obj members => cases h
  | .arr items =>
    rw [Json.listLevels, Int.natCast_add] at hdepth
    have hitems := Content.parseItems_of_areObjectFree items h (depth + 1) (by omega) pos 0
    rw [Content.parse, if_neg (by omega), ofJson]
    show _ = Except.ok (many (ofJsonList items), [] ++ [])
    exact Parse.bind_ok hitems rfl

theorem Content.parseItems_of_areObjectFree (items : List Json)
    (h : Json.areObjectFree items = true) (depth : Int)
    (hdepth : depth + Json.listLevelsOfItems items ≤ maxDepth + 1) (pos : Position) (i : Nat) :
    Content.parseItems depth pos i items = .ok (ofJsonList items, []) := by
  match items with
  | [] => rfl
  | j :: rest =>
    obtain ⟨hj, hrest⟩ := Bool.and_eq_true_iff.mp h
    rw [Json.listLevelsOfItems] at hdepth
    have hfirst := Content.parse_of_isObjectFree j hj depth (by omega) (pos.item i)
    have hothers := Content.parseItems_of_areObjectFree rest hrest depth (by omega) pos (i + 1)
    rw [Content.parseItems, ofJsonList]
    show _ = Except.ok (ofJson j :: ofJsonList rest, [] ++ ([] ++ []))
    exact Parse.bind_ok hfirst (Parse.bind_ok hothers rfl)

end

/-- What nests deeper than reading goes cannot be read as it would be put in. -/
theorem Content.listLevels_of_parse {j k : Json} {pos : Position} {is : List Issue}
    (h : Content.parse 0 pos k = .ok (ofJson j, is)) : j.listLevels ≤ 257 := by
  have hlevels : ((ofJson j).levels : Int) ≤ max 0 (maxDepth + 1 - 0) := (shows_of_parse k h).2
  rw [levels_ofJson, maxDepth] at hlevels
  omega

/-- Both ways agree on a value without objects exactly if it does not nest too deep. -/
theorem Content.parse_eq_ofJson_iff {j : Json} (h : j.isObjectFree = true) :
    Content.parse 0 "" j = .ok (ofJson j, []) ↔ j.listLevels ≤ 257 := by
  refine ⟨listLevels_of_parse, fun hlevels => parse_of_isObjectFree j h 0 ?_ ""⟩
  rw [maxDepth]
  omega

/--
**Putting a value in and reading it agree.** What was put in is written and read back without an
issue exactly if at most 257 lists are inside each other, and a value without objects is then read
as what it would be put in as.
-/
theorem Content.ofJson_agrees (j : Json) :
    (Content.parse 0 "" (ofJson j).toJson = .ok (ofJson j, []) ↔ j.listLevels ≤ 257) ∧
      (j.isObjectFree = true →
        (Content.parse 0 "" j = .ok (ofJson j, []) ↔ j.listLevels ≤ 257)) := by
  obtain ⟨hfree, hsame⟩ := ofJson_toJson_ofJson j
  refine ⟨?_, parse_eq_ofJson_iff⟩
  have hlevels : (ofJson j).toJson.listLevels = j.listLevels := by
    rw [← levels_ofJson, hsame, levels_ofJson]
  have hback := parse_eq_ofJson_iff hfree
  rwa [hsame, hlevels] at hback

/-- A list of all that makes no node, inside so many lists that show a mark beside it. -/
def Json.wrapped : Nat → Json
  | 0 => .arr [.null, .bool true, .int (-5), .float (.ofDecimal false 25 (-1)), .str "", .arr []]
  | n + 1 => .arr [.str "in", wrapped n, .null]

/-- At the greatest depth everything is read as it was put in, and one level below it is not. -/
theorem Content.ofJson_agrees_wrapped :
    (Json.wrapped 255).isObjectFree = true ∧
    Content.parse 0 "" (Json.wrapped 255) = .ok (ofJson (Json.wrapped 255), []) ∧
    Content.parse 0 "" (Json.wrapped 256) ≠ .ok (ofJson (Json.wrapped 256), []) ∧
    Content.parse 0 "" (ofJson (.arr [.obj [("a", .arr [.null])], .bool false])).toJson =
      .ok (.many [.text "\x7b\"a\": [null]\x7d", .empty], []) := by
  have hfree : (Json.wrapped 255).isObjectFree = true := by decide +kernel
  refine ⟨hfree, ((ofJson_agrees _).2 hfree).mpr (by decide +kernel), fun h => ?_, ?_⟩
  · exact absurd (((ofJson_agrees _).2 (by decide +kernel)).mp h) (by decide +kernel)
  · exact (ofJson_agrees (.arr [.obj [("a", .arr [.null])], .bool false])).1.mpr (by decide +kernel)

end AssistantUI
