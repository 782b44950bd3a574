import AssistantUI.Json.Access

/-!
# The order of values

Numbers are in order by their value, truth values among them, texts by their characters and
lists by the first items that differ. Values of different kinds have no order, and to ask
for one is a fault.
-/

namespace AssistantUI

/-- A double as a quotient with a sign; an infinity is beyond all others. -/
def Binary64.quotient (x : Binary64) : Int × Nat :=
  let (p, q) := x.magnitude.quotient
  (if x.negative then -(p : Int) else p, q)

namespace Json

/-- A number as a quotient. -/
def quotient? : Json → Option (Int × Nat)
  | .float x => some x.quotient
  | j => j.toInt?.map fun n => (n, 1)

mutual

/-- Does the first value come before the second? -/
def before (a b : Json) : Except Fault Bool :=
  match a, b with
  | .str a, .str b => .ok (decide (a < b))
  | .arr a, .arr b => itemsBefore a b
  | a, b =>
    match a.quotient?, b.quotient? with
    | some (p, q), some (p', q') => .ok (p * q' < p' * q)
    | _, _ => .error (.notComparable a.kindName b.kindName)

/-- Does the first list come before the second? -/
def itemsBefore (a b : List Json) : Except Fault Bool :=
  match a, b with
  | [], b => .ok (!b.isEmpty)
  | _ :: _, [] => .ok false
  | x :: xs, y :: ys => if x.alike y then itemsBefore xs ys else before x y

end

/-- Puts a value into a list that is in order, after those that do not come later. -/
def insertInOrder (j : Json) : List Json → Except Fault (List Json)
  | [] => .ok [j]
  | k :: rest => do
    if ← before j k then return j :: k :: rest
    else return k :: (← insertInOrder j rest)

/-- Values in order; equal ones stay in the order in which they are given. -/
def sort (items : List Json) : Except Fault (List Json) :=
  items.foldlM (fun done j => insertInOrder j done) []

example : (sort [.int 3, .bool true, .float (.ofDecimal false 25 (-1))]).toOption =
    some [.bool true, .float (.ofDecimal false 25 (-1)), .int 3] := by decide +kernel

end Json

end AssistantUI
