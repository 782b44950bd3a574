import AssistantUI.Event.Trigger
import AssistantUI.State.Basic

/-!
# Handlers

What an event does is always done in the same order: the default action is suppressed,
the state is updated in one merge, and the host is told. A handler is data, so that it can be
kept and run later; what it acts on, and what each of the three steps leads to, is given
when it is run. A step may fail, and then the later ones do not happen.
-/

namespace AssistantUI

/-- What runs when an event happens. -/
inductive Handler where
  /-- What a node of a tree describes. -/
  | described (d : EventDescriptor)
  /-- A field of a flat form writes its content under its name. -/
  | fieldChange (name : String)
  /-- A flat form tells the host what it holds. -/
  | formSubmit
  deriving DecidableEq

/-- What the host is told under one name. -/
inductive Told where
  | value (j : Json)
  /-- All that a state holds, under the keys that it holds it under. -/
  | state (s : State)
  deriving DecidableEq

/-- What the host is told along with the name of an event. -/
abbrev Payload := Dict Key Told

/-- What a handler acts on. -/
structure Surroundings (m : Type → Type) where
  /-- Suppresses the default action. -/
  prevent : m Unit
  /-- Merges changes into the state. -/
  merge : State → m Unit
  /-- What the state holds. -/
  snapshot : m State
  /-- Tells the host, if there is one to be told. -/
  emit : Option (String → Payload → m Unit)

/-- What is told, as a value of JSON text. -/
def Told.toJson : Told → Json
  | value j => j
  | state s => s.toJson

/-- A payload as an object of JSON text. -/
def Payload.toJson (p : Payload) : Json := State.toJson (p.map Told.toJson)

/-- The payload that tells of each value by itself. -/
def State.payload (s : State) : Payload := s.map Told.value

/-- The payload of an event: its data, and the state in place of any member of that name. -/
def EventDescriptor.payload (d : EventDescriptor) (state : State) : Payload :=
  (State.ofTexts (d.data.getD ∅)).payload.insert (.text "state") (.state state)

/-- What an event writes into the state. -/
def EventDescriptor.changes (d : EventDescriptor) (t : Trigger) : State :=
  State.ofTexts ((d.updates.getD ∅).map (UpdateValue.resolve t))

/-- Runs a handler. -/
def Handler.run {m : Type → Type} [Monad m] (s : Surroundings m) (t : Trigger) : Handler → m Unit
  | described d => do
    if d.suppresses then s.prevent
    unless (d.changes t).isEmpty do s.merge (d.changes t)
    match d.emits, s.emit with
    | some name, some emit => emit name (d.payload (← s.snapshot))
    | _, _ => return ()
  | fieldChange name => s.merge (Dict.ofList [(.text name, t.value)])
  | formSubmit => do
    s.prevent
    match s.emit with
    | some emit => emit "submit" (← s.snapshot).payload
    | none => return ()

end AssistantUI
