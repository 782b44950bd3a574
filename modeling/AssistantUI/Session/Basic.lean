import AssistantUI.Json.Access
import AssistantUI.Session.Mount

/-!
# Sessions

A session has at most one definition mounted at a time. Mounting another one, or nothing,
takes the present one down first. The mounts of a session are numbered and never
forgotten: host code may hold on to one, or to a handler of one, after it was taken down.

Host code is called at two points, when the state of a mount has changed and when a mounted
definition tells the host of an event. From there it may ask for any operation of the
session again. `Session.perform` carries out operations, with a bound on the nesting.
-/

namespace AssistantUI

/-- What can be mounted. -/
inductive Mountable where
  | json (j : Json)
  | node (n : Node)
  | definition (d : Definition)

/-- The definition in it; null has none, and neither has what is no definition. -/
def Mountable.parse : Mountable → Parse (Option Definition)
  | json j => Definition.parse j
  | node n => pure (some (.tree n))
  | definition d => pure (some d)

/-- Is there something to mount? -/
def Mountable.isNull : Mountable → Bool
  | json .null => true
  | _ => false

/-- All mounts of a session, the present one, and the memory of the host. -/
structure Session (σ : Type) where
  mounts : List Mount
  current : Option Nat
  /-- The triggers of the handlers that are running, the innermost first. -/
  running : List Trigger
  host : σ

namespace Session

variable {σ : Type}

/-- A session in which nothing was mounted yet. -/
def new (host : σ) : Session σ := ⟨[], none, [], host⟩

/-- Changes one mount. -/
def update (s : Session σ) (i : Nat) (f : Mount → Mount) : Session σ :=
  { s with mounts := s.mounts.modify i f }

/-- The mount that is present. -/
def currentMount (s : Session σ) : Option Mount := s.current.bind fun i => s.mounts[i]?

/-- The store of a mount. -/
def store (i : Nat) (s : Session σ) : Store Listener :=
  ((s.mounts[i]?).map Mount.store).getD (Store.new ∅)

/-- Takes the present mount down. -/
def unmount (s : Session σ) : Session σ :=
  match s.current with
  | none => s
  | some i => { s.update i Mount.stop with current := none }

/-- Makes a mount the present one. -/
def start (s : Session σ) (m : Mount) : Session σ :=
  { s with mounts := s.mounts ++ [m], current := some s.mounts.length }

/-! ## Operations -/

/-- What host code can ask of a session. -/
inductive Op (σ : Type) where
  /-- Mounts something in place of the present mount. -/
  | mount (what : Mountable)
  /-- Takes the present mount down. -/
  | unmount
  /-- Takes a mount down. -/
  | stop (i : Nat)
  /-- Runs the callback of a mount under a key. -/
  | invoke (i : Nat) (key : Key) (trigger : Trigger)
  /-- Runs a handler that was taken from a mount earlier. -/
  | runHandler (i : Nat) (handler : Handler) (trigger : Trigger)
  /-- Merges changes into the state of a mount. -/
  | merge (i : Nat) (changes : Json)
  /-- Renders a mount. -/
  | render (i : Nat)
  | subscribe (i : Nat) (number : Nat)
  | unsubscribe (i : Nat) (number : Nat)
  /-- The host changes its own memory. -/
  | remember (host : σ)

/-- What host code is answered. -/
inductive Reply where
  | done
  /-- The number of the new mount, if something was mounted. -/
  | mounted (i : Option Nat)
  /-- The trigger after its handler has run, if there was one. -/
  | ran (trigger : Option Trigger)

/-- The code of a host that is called by a session. -/
abbrev Code (σ : Type) : Type := Script (Session σ) (Op σ) Reply

/-- What the host does when it is called. -/
structure Host (σ : Type) where
  /-- The name of the mount with a number. -/
  mountId : Nat → String
  /-- When a mount tells of an event, if the host is to be told at all. -/
  onEvent : Option (Nat → String → Payload → Session σ → Code σ)
  /-- When the state of a mount has changed, for each number of a listener. -/
  onChange : Nat → Nat → State → Session σ → Code σ

section

variable (host : Host σ) (call : (Session σ → Code σ) → Act (Session σ) Unit)

/-- Calls a listener of a mount. -/
def listen (i : Nat) : Listener → State → Act (Session σ) Unit
  | .rerender, _ => modify fun s => s.update i fun m => if m.mounted then m.render else m
  | .host number, changes => call (host.onChange i number changes)

/-- Merges changes into the state of a mount. -/
def mergeState (i : Nat) (changes : State) : Act (Session σ) Unit :=
  Store.merge (store i) (fun s st => s.update i fun m => { m with store := st })
    (listen host call i) changes

/-- Tells the host of an event, on behalf of a mount that is not taken down. -/
def emit (i : Nat) (name : String) (payload : Payload) : Act (Session σ) Unit := fun s =>
  match host.onEvent, s.mounts[i]? with
  | some onEvent, some m => if m.mounted then call (onEvent i name payload) s else (.ok (), s)
  | _, _ => (.ok (), s)

/-- Suppresses the default action of the innermost trigger. -/
def preventDefault : Act (Session σ) Unit := modify fun s =>
  { s with running := s.running.modifyHead fun t => { t with prevented := true } }

/-- What a handler of a mount acts on. -/
def surroundings (i : Nat) : Surroundings (Act (Session σ)) where
  prevent := preventDefault
  merge := mergeState host call i
  snapshot := fun s => (.ok (store i s).values, s)
  emit := some (emit host call i)

/-- Runs a handler of a mount, and gives its trigger as it is afterwards, even if it failed. -/
def runHandler (i : Nat) (handler : Handler) (t : Trigger) (s : Session σ) :
    Except Fault Unit × Trigger × Session σ :=
  let (result, s') := (handler.run (surroundings host call i) t).runIn
    { s with running := t :: s.running }
  (result, s'.running.headD t, { s' with running := s'.running.tail })

/-- Runs the callback under a key. What fails is noted and not passed on. -/
def invoke (i : Nat) (key : Key) (t : Trigger) (s : Session σ) : Option Trigger × Session σ :=
  match (s.mounts[i]?).bind fun m => m.callbacks.at? key with
  | none => (none, s.update i fun m => m.report (.callbackUnknown key))
  | some callback =>
    let (result, t', s') := runHandler host call i callback.handler t s
    match result with
    | .ok () => (some t', s')
    | .error f => (some t', s'.update i fun m => m.report (.handlerRaised key.display f))

/-- Mounts something in place of the present mount, which is taken down also if reading fails. -/
def mount (what : Mountable) (s : Session σ) : Except Fault (Option Nat) × Session σ :=
  let s := s.unmount
  if what.isNull then (.ok none, s)
  else match what.parse with
    | .error f => (.error f, s)
    | .ok (definition, issues) =>
      (.ok (some s.mounts.length),
        s.start (Mount.start (host.mountId s.mounts.length) definition issues))

/-- Carries out an operation, with `call` for the code of the host. -/
def performWith (op : Op σ) : Act (Session σ) Reply := fun s =>
  match op with
  | .mount what =>
    let (r, s') := mount host what s
    (r.map .mounted, s')
  | .unmount => (.ok .done, s.unmount)
  | .stop i => (.ok .done, s.update i Mount.stop)
  | .invoke i key t =>
    let (r, s') := invoke host call i key t s
    (.ok (.ran r), s')
  | .runHandler i handler t =>
    let (r, t', s') := runHandler host call i handler t s
    (r.map fun _ => .ran (some t'), s')
  | .merge i changes =>
    match changes.toDictOrEmpty with
    | .error f => (.error f, s)
    | .ok changes =>
      let (r, s') := (mergeState host call i changes).runIn s
      (r.map fun _ => .done, s')
  | .render i => (.ok .done, s.update i Mount.render)
  | .subscribe i number => (.ok .done,
      s.update i fun m => { m with store := m.store.subscribe (.host number) })
  | .unsubscribe i number => (.ok .done,
      s.update i fun m => { m with store := m.store.unsubscribe (.host number) })
  | .remember memory => (.ok .done, { s with host := memory })

end

/-- Carries out an operation; calls from inside calls nest at most `depth` times. -/
def perform (host : Host σ) : Nat → Op σ → Act (Session σ) Reply
  | 0, _ => throw .nestedTooDeeply
  | depth + 1, op => performWith host (fun code s => (code s).run (perform host depth) s) op

end Session

end AssistantUI
