import AssistantUI.Event.Handler
import AssistantUI.Script

/-!
# Handlers on trial

A handler can be run on a state that nobody else looks at. What comes of it is the state, the
trigger, and a record of what was done in which order, where each entry says whether the
default action had been suppressed by then.
-/

namespace AssistantUI

/-- Something that a handler did. -/
inductive Effect where
  | merged (changes : State) (prevented : Bool)
  | emitted (name : String) (payload : Payload) (prevented : Bool)
  deriving DecidableEq

/-- What comes of a handler. -/
structure Trial where
  state : State
  trigger : Trigger
  effects : List Effect

namespace Trial

/-- Notes an effect. -/
def note (t : Trial) (effect : Bool → Effect) : Trial :=
  { t with effects := t.effects ++ [effect t.trigger.prevented] }

/-- What a handler on trial acts on; `tells` says whether there is a host to be told. -/
def surroundings (tells : Bool) : Surroundings (Act Trial) where
  prevent := modify fun t => { t with trigger := { t.trigger with prevented := true } }
  merge changes := modify fun t =>
    if changes.isEmpty then t
    else { t with state := t.state.update changes }.note (.merged changes)
  snapshot := fun t => (.ok t.state, t)
  emit := if tells then some fun name payload => modify fun t => t.note (.emitted name payload)
    else none

end Trial

/-- Runs a handler on a state of its own. -/
def Handler.trial (tells : Bool) (state : State) (t : Trigger) (h : Handler) : Trial :=
  ((h.run (Trial.surroundings tells) t).runIn ⟨state, t, []⟩).2

end AssistantUI
