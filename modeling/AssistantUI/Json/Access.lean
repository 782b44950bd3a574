import AssistantUI.Fault

/-!
# Values used as something else

Parameters and payloads come as any JSON value and are used as lists, as objects and as
dictionaries. Some values of other kinds will do: a text has its characters as items and an
object its keys, and a list of pairs makes a dictionary. The rest is a fault.
-/

namespace AssistantUI.Json

/-- The items of a value: of a list its items, of a text its characters, of an object its keys. -/
def items : Json → Except Fault (List Json)
  | .arr items => .ok items
  | .str s => .ok (s.toList.map fun c => .str (String.singleton c))
  | .obj members => .ok (members.map fun e => .str e.1)
  | j => .error (.notIterable j.kindName)

/-- The members of an object, of which the attribute `name` is asked. -/
def members (name : String) : Json → Except Fault (List (String × Json))
  | .obj members => .ok members
  | j => .error (.onAttribute j name)

/-- A value used as a key, which no list and no object can be. -/
def toKey : Json → Except Fault Key
  | .str s => .ok (.text s)
  | .null => .ok .null
  | .bool b => .ok (.bool b)
  | .int n => .ok (.int n)
  | .float x => .ok (.float x)
  | .arr _ => .error (.unhashable "list")
  | .obj _ => .error (.unhashable "dict")

/-- The integer that a value is; truth values are `0` and `1`. -/
def toInt? : Json → Option Int
  | .int n => some n
  | .bool b => some (if b then 1 else 0)
  | _ => none

/-- The item of a list at the place that a value says, which is counted from the end below zero. -/
def pick {α : Type} (j : Json) (items : List α) : Except Fault α :=
  match j.toInt? with
  | none => .error (.indexNotInteger j.kindName)
  | some i =>
    let place := if i < 0 then i + items.length else i
    match if place < 0 then none else items[place.toNat]? with
    | some a => .ok a
    | none => .error .indexOutOfRange

/-- The two items of a value that has two. -/
def pair (j : Json) : Except Fault (Json × Json) := do
  match ← j.items with
  | [a, b] => return (a, b)
  | items => throw (.itemCount 2 items.length)

/-- The key and the value that the `index`-th entry of a list of pairs stands for. -/
def entryPair (index : Nat) (j : Json) : Except Fault (Json × Json) :=
  match j.items with
  | .error _ => .error (.entryNotIterable index)
  | .ok [k, v] => .ok (k, v)
  | .ok items => .error (.entryLength index items.length)

/-- Writes the entries of a list of pairs into a dictionary, counting from `index`. -/
def insertPairs (d : Dict Key Json) (index : Nat) : List Json → Except Fault (Dict Key Json)
  | [] => .ok d
  | j :: rest => do
    let (k, v) ← entryPair index j
    insertPairs (d.insert (← k.toKey) v) (index + 1) rest

/-- A value as a dictionary: an object, or the items of anything that has them as pairs. -/
def toDict : Json → Except Fault (Dict Key Json)
  | .obj members => .ok (Dict.ofList (members.map fun e => (.text e.1, e.2)))
  | j => do insertPairs ∅ 0 (← j.items)

/-- A value as a dictionary, where one that does not count as given makes the empty one. -/
def toDictOrEmpty (j : Json) : Except Fault (Dict Key Json) :=
  if j.truthy then j.toDict else .ok ∅

end AssistantUI.Json
