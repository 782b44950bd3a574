import AssistantUI.Dict
import AssistantUI.Number.Binary64

/-!
# Values

Definitions arrive as JSON, and state, props and event data hold JSON, so one type of
values runs through the whole library. Integers and doubles are told apart, since they
are written differently, although `1` and `1.0` count as equal when values are compared.
The members of an object keep their order. That no key occurs twice is not part of the
type, which recursion over it would not survive; reading a text never makes such an
object, and `Json.dict` gives the dictionary of any.
-/

namespace AssistantUI

/-- A JSON value. -/
inductive Json where
  | null
  | bool (b : Bool)
  | int (n : Int)
  | float (x : Binary64)
  | str (s : String)
  | arr (items : List Json)
  | obj (members : List (String × Json))
  deriving Inhabited

namespace Json

/-! ## Equality of values as they are written -/

mutual

/-- Are two values written alike, members in the same order included? -/
def decEq (a b : Json) : Decidable (a = b) :=
  match a, b with
  | .null, .null => isTrue rfl
  | .bool a, .bool b => decidable_of_iff (a = b) (by simp)
  | .int a, .int b => decidable_of_iff (a = b) (by simp)
  | .float a, .float b => decidable_of_iff (a = b) (by simp)
  | .str a, .str b => decidable_of_iff (a = b) (by simp)
  | .arr a, .arr b => @decidable_of_iff _ (a = b) (by simp) (decEqList a b)
  | .obj a, .obj b => @decidable_of_iff _ (a = b) (by simp) (decEqMembers a b)
  | .null, .bool _ | .null, .int _ | .null, .float _ | .null, .str _ | .null, .arr _
  | .null, .obj _ | .bool _, .null | .bool _, .int _ | .bool _, .float _ | .bool _, .str _
  | .bool _, .arr _ | .bool _, .obj _ | .int _, .null | .int _, .bool _ | .int _, .float _
  | .int _, .str _ | .int _, .arr _ | .int _, .obj _ | .float _, .null | .float _, .bool _
  | .float _, .int _ | .float _, .str _ | .float _, .arr _ | .float _, .obj _ | .str _, .null
  | .str _, .bool _ | .str _, .int _ | .str _, .float _ | .str _, .arr _ | .str _, .obj _
  | .arr _, .null | .arr _, .bool _ | .arr _, .int _ | .arr _, .float _ | .arr _, .str _
  | .arr _, .obj _ | .obj _, .null | .obj _, .bool _ | .obj _, .int _ | .obj _, .float _
  | .obj _, .str _ | .obj _, .arr _ => isFalse nofun

/-- The comparison, item by item. -/
def decEqList (a b : List Json) : Decidable (a = b) :=
  match a, b with
  | [], [] => isTrue rfl
  | [], _ :: _ => isFalse nofun
  | _ :: _, [] => isFalse nofun
  | x :: xs, y :: ys =>
    match decEq x y, decEqList xs ys with
    | isTrue h, isTrue hs => isTrue (by rw [h, hs])
    | isFalse h, _ => isFalse fun e => h (List.cons.inj e).1
    | _, isFalse hs => isFalse fun e => hs (List.cons.inj e).2

/-- The comparison, member by member. -/
def decEqMembers (a b : List (String × Json)) : Decidable (a = b) :=
  match a, b with
  | [], [] => isTrue rfl
  | [], _ :: _ => isFalse nofun
  | _ :: _, [] => isFalse nofun
  | (k, x) :: xs, (j, y) :: ys =>
    match (inferInstance : Decidable (k = j)), decEq x y, decEqMembers xs ys with
    | isTrue hk, isTrue h, isTrue hs => isTrue (by rw [hk, h, hs])
    | isFalse hk, _, _ => isFalse fun e => hk (Prod.mk.inj (List.cons.inj e).1).1
    | _, isFalse h, _ => isFalse fun e => h (Prod.mk.inj (List.cons.inj e).1).2
    | _, _, isFalse hs => isFalse fun e => hs (List.cons.inj e).2

end

instance : DecidableEq Json := decEq

/-! ## Equality of values as they are compared -/

mutual

/--
Do two values compare as equal? Numbers do by value, truth values count as `0` and `1`, and
the order of an object's members does not matter.
-/
def alike (a b : Json) : Bool :=
  match a, b with
  | .null, .null => true
  | .str a, .str b => a == b
  | .arr a, .arr b => alikeItems a b
  | .obj a, .obj b => a.length == b.length && alikeMembers a b
  | .bool a, .bool b => a == b
  | .bool a, .int b => (if a then 1 else 0) == b
  | .bool a, .float b => b.isInt (if a then 1 else 0)
  | .int a, .bool b => a == (if b then 1 else 0)
  | .int a, .int b => a == b
  | .int a, .float b => b.isInt a
  | .float a, .bool b => a.isInt (if b then 1 else 0)
  | .float a, .int b => a.isInt b
  | .float a, .float b => a.sameValue b
  | _, _ => false

/-- Do two lists have equal items, one by one? -/
def alikeItems (a b : List Json) : Bool :=
  match a, b with
  | [], [] => true
  | x :: xs, y :: ys => alike x y && alikeItems xs ys
  | _, _ => false

/-- Does every member of `a` have an equal one under its key in `b`? -/
def alikeMembers (a b : List (String × Json)) : Bool :=
  match a with
  | [] => true
  | (k, x) :: rest => (match Dict.find k b with | some y => alike x y | none => false) &&
    alikeMembers rest b

end

/-! ## Looking at a value -/

mutual

/-- Can JSON express the value? It has no infinities, and a NaN is no number. -/
def isExpressible (j : Json) : Bool :=
  match j with
  | .float x => x.isFinite
  | .arr items => areExpressible items
  | .obj members => membersExpressible members
  | _ => true

/-- Can JSON express all items of a list? -/
def areExpressible (items : List Json) : Bool :=
  match items with
  | [] => true
  | j :: rest => isExpressible j && areExpressible rest

/-- Can JSON express all members of an object? -/
def membersExpressible (members : List (String × Json)) : Bool :=
  match members with
  | [] => true
  | (_, j) :: rest => isExpressible j && membersExpressible rest

end

/-- Does the value count as given? Null, false, zero and everything empty do not. -/
def truthy : Json → Bool
  | .null => false
  | .bool b => b
  | .int n => n != 0
  | .float x => !x.isZero
  | .str s => s != ""
  | .arr items => !items.isEmpty
  | .obj members => !members.isEmpty

/-- The value, or another one if it does not count as given. -/
def orElse (a b : Json) : Json := if a.truthy then a else b

/-- The name of a value's kind, as messages give it. -/
def kindName : Json → String
  | .null => "NoneType"
  | .bool _ => "bool"
  | .int _ => "int"
  | .float _ => "float"
  | .str _ => "str"
  | .arr _ => "list"
  | .obj _ => "dict"

/-- The dictionary of an object's members. -/
def dict (members : List (String × Json)) : Dict String Json := Dict.ofList members

/-- The object with the bindings of a dictionary. -/
def ofDict (d : Dict String Json) : Json := .obj d.entries

@[simp] theorem dict_entries (d : Dict String Json) : dict d.entries = d := Dict.ofList_entries d

/-- The member of an object under a key, null if it has none. -/
def member (members : List (String × Json)) (k : String) : Json :=
  (Dict.find k members).getD .null

example : alike (.int 1) (.float (.ofDecimal false 1 0)) = true := by decide +kernel

end Json

end AssistantUI
