import AssistantUI.Script
import AssistantUI.State.Basic

/-!
# The state of a mounted definition

A store holds values under keys and a list of listeners. Merging is the only way to change
a value: every key of the changes replaces what was there. Then each listener that was
registered when the merge began is called with the changes, in the order of
registration, whatever becomes of the registrations meanwhile; the first one that fails
ends the round, and the values stay.
-/

namespace AssistantUI

/-- Values, and who is told of their changes. -/
structure Store (κ : Type) where
  values : State
  /-- In the order of registration; one listener may be registered more than once. -/
  listeners : List κ

namespace Store

variable {κ : Type} {ω : Type}

/-- A store that nobody listens to. -/
def new (values : State) : Store κ := ⟨values, []⟩

instance : Inhabited (Store κ) := ⟨new ∅⟩

/-- Writes changes, key by key. -/
def write (s : Store κ) (changes : State) : Store κ :=
  { s with values := s.values.update changes }

/-- Registers a listener. -/
def subscribe (s : Store κ) (l : κ) : Store κ := { s with listeners := s.listeners ++ [l] }

/-- Takes back the first registration of a listener, if there is one. -/
def unsubscribe [DecidableEq κ] (s : Store κ) (l : κ) : Store κ :=
  { s with listeners := s.listeners.erase l }

/-- Forgets all values and all registrations. -/
def dispose (_ : Store κ) : Store κ := new ∅

/-- Calls listeners one after another, up to the first that fails. -/
def notify (call : κ → State → Act ω Unit) (changes : State) : List κ → Act ω Unit
  | [] => pure ()
  | l :: rest => do
    call l changes
    notify call changes rest

/--
Merges changes into the store that `get` and `set` give access to. Empty changes are no merge
at all.
-/
def merge (get : ω → Store κ) (set : ω → Store κ → ω) (call : κ → State → Act ω Unit)
    (changes : State) : Act ω Unit := fun w =>
  if changes.isEmpty then (.ok (), w)
  else notify call changes (get w).listeners (set w ((get w).write changes))

end Store

end AssistantUI
