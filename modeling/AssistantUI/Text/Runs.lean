/-!
# Sets of characters as run lengths

A property of characters that a standard fixes by enumeration is held as a list of
run lengths over all code points: so many without the property, then so many with it,
and so on. Such a list is short, it is ordered by construction, and membership is one
walk over it.
-/

namespace AssistantUI.Text

/-- Is the code point `c` in the set? `inside` says what the first run stands for. -/
def inRuns (c : Nat) (inside : Bool) : List Nat → Bool
  | [] => false
  | n :: rest => if c < n then inside else inRuns (c - n) (!inside) rest

/-- Membership of a character in a set that starts with a run of non-members. -/
def Runs.contains (runs : List Nat) (c : Char) : Bool := inRuns c.toNat false runs

end AssistantUI.Text
