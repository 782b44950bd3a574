import AssistantUI.Event.Handler
import AssistantUI.Position
import AssistantUI.View.Basic

/-!
# Callbacks

Beside the rendered tree stands a table of what its events do, under the position of the
node and the name of the event. The platform sends back that key; which element it belongs
to can be seen from the tag and the props kept with it.
-/

namespace AssistantUI

/-- An entry of the table of callbacks. -/
structure Callback where
  handler : Handler
  event : String
  /-- The type of the node. -/
  tag : String
  /-- The props of the element, placeholders included. -/
  props : Dict String Json

/-- Callbacks under their keys; of two under one key the later counts, at the earlier's place. -/
abbrev Callbacks := Dict String Callback

/-- The callback under a key, which none but a text can have. -/
def Callbacks.at? (cs : Callbacks) : Key → Option Callback
  | .text s => cs.get? s
  | _ => none

/-- Does a callback meet the given conditions? -/
def Callback.matches (c : Callback) (tag event : Option String) (accept : Dict String Json → Bool) :
    Bool :=
  (tag.isNone || tag == some c.tag) && (event.isNone || event == some c.event) && accept c.props

/-- The key of the first callback that meets the given conditions. -/
def Callbacks.find? (cs : Callbacks) (tag event : Option String)
    (accept : Dict String Json → Bool) : Option String :=
  (cs.entries.find? fun e => e.2.matches tag event accept).map Prod.fst

end AssistantUI
