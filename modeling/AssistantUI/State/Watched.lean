import AssistantUI.Json.Access
import AssistantUI.State.Store

/-!
# A store among listeners

A store on its own, whose listeners are host code: when one is called it may merge again,
register and take back listeners, dispose of the store or fail. The host has a memory of
its own beside the store.
-/

namespace AssistantUI

/-- A store with named listeners, and the memory of the host. -/
structure Watched (σ : Type) where
  store : Store Key
  host : σ

namespace Watched

variable {σ : Type}

/-- What can be asked of a store. -/
inductive Op (σ : Type) where
  | merge (changes : Json)
  | subscribe (name : Key)
  | unsubscribe (name : Key)
  | dispose
  /-- The host changes its own memory. -/
  | remember (host : σ)

/-- What a listener does when it is called with changes. -/
abbrev Reaction (σ : Type) : Type :=
  Key → State → Watched σ → Script (Watched σ) (Op σ) Unit

/-- Carries out an operation; calls from inside calls nest at most `depth` times. -/
def perform (react : Reaction σ) : Nat → Op σ → Act (Watched σ) Unit
  | 0, _ => throw .nestedTooDeeply
  | depth + 1, op =>
    match op with
    | .merge changes => do
      Store.merge Watched.store (fun w s => { w with store := s })
        (fun name changes w => (react name changes w).run (perform react depth) w)
        (← changes.toDictOrEmpty)
    | .subscribe name => modify fun w => { w with store := w.store.subscribe name }
    | .unsubscribe name => modify fun w => { w with store := w.store.unsubscribe name }
    | .dispose => modify fun w => { w with store := w.store.dispose }
    | .remember host => modify fun w => { w with host := host }

end Watched

end AssistantUI
