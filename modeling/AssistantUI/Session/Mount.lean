import AssistantUI.Definition.Parser
import AssistantUI.Render.Flat
import AssistantUI.Render.Tree
import AssistantUI.State.Store

/-!
# Mounted definitions

A mounted definition has a store of its own and shows what it renders to in the store's
present state: its first listener renders it again after every change. Once it is unmounted
it shows nothing, has no callbacks, and its store is empty and unheard.
-/

namespace AssistantUI

/-! ## One rendering -/

/-- What a definition, or none, shows. -/
def Definition.render? (state : State) : Option Definition → Rendered View
  | none => .nothing
  | some (.tree root) => .one (root.view state)
  | some (.flat type members) => .one (Flat.view state type members)

/-- The callbacks of a definition, or of none. -/
def Definition.callbacks? (state : State) : Option Definition → Callbacks
  | none => ∅
  | some (.tree root) => (Content.single root).callbacks state ""
  | some (.flat type members) => Dict.ofList (Flat.registrations state type members)

/-- What rendering a definition, or none, finds wrong. -/
def Definition.issues? (state : State) : Option Definition → List Issue
  | some (.tree root) => (Content.single root).issues state ""
  | _ => []

/-! ## Mounts -/

/-- Who listens to the store of a mount. -/
inductive Listener where
  /-- The mount itself, which renders again. -/
  | rerender
  /-- Code of the host, by number. -/
  | host (number : Nat)
  deriving DecidableEq

/-- A definition that was mounted. -/
structure Mount where
  id : String
  definition : Option Definition
  store : Store Listener
  reporter : Reporter
  view : Rendered View
  callbacks : Callbacks
  renderCount : Nat
  mounted : Bool

namespace Mount

/-- Renders in the present state. -/
def render (m : Mount) : Mount :=
  { m with
    view := Definition.render? m.store.values m.definition
    callbacks := Definition.callbacks? m.store.values m.definition
    reporter := m.reporter.addAll (Definition.issues? m.store.values m.definition)
    renderCount := m.renderCount + 1 }

/-- Mounts a definition, or an empty place with the issues that left nothing of it. -/
def start (id : String) (definition : Option Definition) (issues : List Issue) : Mount :=
  render
    { id
      definition
      store := (Store.new ∅).subscribe .rerender
      reporter := Reporter.addAll { mountId := some (.str id) } issues
      view := .nothing
      callbacks := ∅
      renderCount := 0
      mounted := true }

/-- Takes it down. -/
def stop (m : Mount) : Mount :=
  if m.mounted then
    { m with
      mounted := false
      store := (m.store.unsubscribe .rerender).dispose
      callbacks := ∅
      view := .nothing }
  else m

/-- Notes an issue. -/
def report (m : Mount) (i : Issue) : Mount := { m with reporter := m.reporter.add i }

end Mount

end AssistantUI
