/-!
# Positions

Nodes of a tree are named by the chain of indices that leads to them from the root, and
events of a node by its position and their name, all joined by dots. The root's own
position is empty and is left out.
-/

namespace AssistantUI

/-- A position: indices and at most one event name, joined by dots. -/
abbrev Position := String

namespace Position

/-- What lies under a position with the given name. -/
def under (base : Position) (name : String) : Position :=
  if base = "" then name else base ++ "." ++ name

/-- The `i`-th item under a position. -/
def item (base : Position) (i : Nat) : Position := under base (toString i)

end Position

end AssistantUI
