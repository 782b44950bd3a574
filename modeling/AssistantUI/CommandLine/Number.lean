import AssistantUI.Text.Integer

/-!
# Numbers among arguments

An argument that has to be an integer is an optional sign and ASCII digits. Blanks around it,
zeros in front of it and zeros behind a point do not count, and single underscores may stand
inside it.
-/

namespace AssistantUI.CommandLine

/-- The digits `'1'` to `'9'`. -/
def isLeading (c : Char) : Bool := '1' ≤ c && c ≤ '9'

/-- A number after zeros, of which `last` is the last one or an underscore behind it. -/
def afterZeros (last : Char) : List Char → Option (List Char)
  | [] => some [last]
  | c :: rest =>
    if c = '.' then some (last :: c :: rest)
    else if c = '0' ∨ c = '_' then afterZeros c rest
    else if isLeading c then some (c :: rest)
    else none

/-- A number without the zeros in front of it, if it is one that starts like a number. -/
def withoutZeros : List Char → Option (List Char)
  | [] => none
  | c :: rest =>
    if c = '0' then afterZeros c rest
    else if isLeading c ∨ c = '-' then some (c :: rest)
    else none

/-- A number without a point and the zeros behind it. -/
def withoutFraction (s : List Char) : List Char :=
  if ((s.dropWhile (· != '.')).drop 1).all (· == '0') then s.takeWhile (· != '.') else s

/-- Does an underscore stand at an end of the text or beside another one? -/
def strayUnderscore : List Char → Bool
  | [] => false
  | ['_'] => true
  | '_' :: '_' :: _ => true
  | _ :: rest => strayUnderscore rest

/-- The natural number of ASCII digits. -/
def natural? (s : List Char) : Option Nat :=
  if s.isEmpty || !s.all Char.isDigit then none
  else some (s.foldl (fun n c => n * 10 + (c.toNat - 48)) 0)

/-- The integer that an argument is. -/
def integer? (s : String) : Option Int := do
  let s := Text.trimWhere Text.isMargin s.toList
  let s ← match s with
    | '+' :: '-' :: _ => none
    | '+' :: rest => some rest
    | s => some s
  let s := withoutFraction (← withoutZeros s)
  let s := if strayUnderscore s || s.head? = some '_' then s else s.filter (· != '_')
  if s.length > Text.maxDigits then none
  else match s with
    | '-' :: digits => (natural? digits).map fun n => -(n : Int)
    | digits => (natural? digits).map fun n => (n : Int)

example : integer? " 007_0.0 " = some 70 ∧ integer? "-0.0" = some 0 ∧ integer? "1.5" = none
    ∧ integer? "1e1" = none ∧ integer? "_1" = none := by decide +kernel

end AssistantUI.CommandLine
