import AssistantUI.Fault

/-!
# Host code

Listeners and the host's callback are code outside the library. They are called in the
middle of its operations and may call back into it: merge, mount, fail. Such code is a
`Script`: it stops, it fails, or it asks for one operation and goes on with the answer
and with a view of everything there is to see. A script is finite along every path, but
which path it takes is up to the answers.

How an operation is carried out is a parameter of running a script. The library ties the
knot by a bound on how deeply calls from inside calls may nest; at the bound an operation
fails instead of being carried out, which is one more way for it to fail.
-/

namespace AssistantUI

/-- Something done in a world of type `ω`: it changes the world, and gives a value or fails. -/
abbrev Act (ω α : Type) : Type := ExceptT Fault (StateM ω) α

namespace Act

variable {ω α : Type}

/-- What comes of it in a given world. -/
def runIn (a : Act ω α) (w : ω) : Except Fault α × ω := a w

/-- Does something without failing: a fault becomes its value. -/
def attempt (a : Act ω α) : Act ω (Except Fault α) := fun w =>
  let (r, w') := a.runIn w
  (.ok r, w')

end Act

/-- Code that asks for operations `ο`, is answered by `ρ` and sees worlds `ω`. -/
inductive Script (ω ο ρ : Type) where
  | done
  | raise (f : Fault)
  | ask (op : ο) (next : Except Fault ρ → ω → Script ω ο ρ)

namespace Script

variable {ω ο ρ : Type}

/-- Runs a script, where `perform` says how an operation is carried out. -/
def run (perform : ο → Act ω ρ) : Script ω ο ρ → Act ω Unit
  | done => pure ()
  | raise f => throw f
  | ask op next => fun w =>
    let (answer, w') := (perform op).runIn w
    (next answer w').run perform w'

/-- Asks for an operation and, unless it fails, goes on; a failure of it is the script's own. -/
def andThen (op : ο) (next : ρ → ω → Script ω ο ρ) : Script ω ο ρ :=
  ask op fun answer w => match answer with
    | .ok r => next r w
    | .error f => raise f

end Script

end AssistantUI
