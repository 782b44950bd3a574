import AssistantUI.Json.Key

/-!
# What a definition keeps

Everything that can change in a mounted definition is kept in its state: values under
keys, in the order in which the keys were first set. A definition itself sets texts only,
and looks up texts only; code of the host may use any key.
-/

namespace AssistantUI

/-- Values under keys. -/
abbrev State := Dict Key Json

namespace State

/-- The state that holds values under texts. -/
def ofTexts (d : Dict String Json) : State := d.mapKeys .text fun j k h => by simpa using h

/-- What is held under a text; null if it is nothing. -/
def value (s : State) (name : String) : Json := (s.get? (.text name)).getD .null

/-- The state as an object of JSON text. Keys may share a name there, and then both are written. -/
def toJson (s : State) : Json := .obj (s.entries.map fun e => (e.1.memberName, e.2))

/-- The literal notation of a state. -/
def literal (s : State) : String :=
  "\x7b" ++ ", ".intercalate (s.entries.map fun e => e.1.literal ++ ": " ++ e.2.literal) ++ "\x7d"

theorem get?_ofTexts (d : Dict String Json) (k : String) :
    (ofTexts d).get? (.text k) = d.get? k := by
  rw [Dict.get?, ofTexts, Dict.entries_mapKeys, Dict.get?]
  induction d.entries with
  | nil => rfl
  | cons e rest ih => rw [List.map_cons, Dict.find, Dict.find, ih, Key.text_beq_text]

/-- A state that holds values under texts is the object with these names. -/
theorem toJson_ofTexts (d : Dict String Json) : (ofTexts d).toJson = .ofDict d := by
  rw [toJson, ofTexts, Dict.entries_mapKeys, List.map_map]
  exact congrArg Json.obj (List.map_id _)

example : toJson (Dict.ofList [(.null, .int 1), (.text "null", .int 2), (.bool true, .null)]) =
    .obj [("null", .int 1), ("null", .int 2), ("true", .null)] := by decide +kernel

end State

end AssistantUI
