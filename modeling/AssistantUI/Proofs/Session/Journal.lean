import AssistantUI.Proofs.Act
import AssistantUI.Session.Basic

/-!
# Sessions that keep a journal

What a session leaves behind does not say what happened on the way: how often a state was
merged into, or what host code had before it while a round of listeners was still under way.
Here every operation is carried out once more, in a world that has a journal beside the
session. A line is written when a mount is made, when changes begin to be merged, when a mount
is rendered on demand, when the host is told of an event, and whenever host code runs: at its
start, and each time it goes on with an answer. Such a line holds the whole session as the
code finds it.

The journal is only written, never read, so a recorded run does what the plain run does.
-/

namespace AssistantUI.Session

/-- A line of a journal. -/
inductive Moment (σ : Type) where
  /-- A mount is made. -/
  | mounting (i : Nat) (definition : Option Definition)
  /-- Changes, not empty, begin to be merged into the state of a mount. -/
  | merging (i : Nat) (changes : State)
  /-- A mount is rendered because host code asks for it. -/
  | rendering (i : Nat)
  /-- The host is told of an event. -/
  | telling (i : Nat) (name : String) (payload : Payload)
  /-- Host code runs, and this is what it finds. -/
  | seeing (s : Session σ)

/-- A session and what happened in it so far, the earliest first. -/
structure Recorded (σ : Type) where
  session : Session σ
  journal : List (Moment σ)

namespace Recorded

variable {σ α : Type}

/-- Writes a line. -/
def note (r : Recorded σ) (e : Moment σ) : Recorded σ := { r with journal := r.journal ++ [e] }

/-- Writes a line about a mount, if there is such a mount. -/
def noteOf (r : Recorded σ) (i : Nat) (e : Moment σ) : Recorded σ :=
  if (r.session.mounts[i]?).isSome then r.note e else r

/-- Notes what host code finds. -/
def see (r : Recorded σ) : Recorded σ := r.note (.seeing r.session)

/-- Does something to the session of which there is nothing to note. -/
def quietly (a : Act (Session σ) α) : Act (Recorded σ) α := fun r =>
  let (x, s) := a.runIn r.session
  (x, { r with session := s })

/-! ## Recorded operations -/

section

variable (host : Host σ) (call : (Session σ → Code σ) → Act (Recorded σ) Unit)

/-- Calls a listener of a mount. -/
def listen (i : Nat) : Listener → State → Act (Recorded σ) Unit
  | .rerender, changes => quietly (Session.listen host (fun _ => pure ()) i .rerender changes)
  | .host number, changes => call (host.onChange i number changes)

/-- Merges changes into the state of a mount. -/
def mergeState (i : Nat) (changes : State) : Act (Recorded σ) Unit :=
  Store.merge (fun r => store i r.session)
    (fun r st => { r with session := r.session.update i fun m => { m with store := st } }.noteOf i
      (.merging i changes))
    (listen host call i) changes

/-- Tells the host of an event, on behalf of a mount that is not taken down. -/
def emit (i : Nat) (name : String) (payload : Payload) : Act (Recorded σ) Unit := fun r =>
  match host.onEvent, r.session.mounts[i]? with
  | some onEvent, some m =>
    if m.mounted then call (onEvent i name payload) (r.note (.telling i name payload))
    else (.ok (), r)
  | _, _ => (.ok (), r)

/-- What a handler of a mount acts on. -/
def surroundings (i : Nat) : Surroundings (Act (Recorded σ)) where
  prevent := quietly preventDefault
  merge := mergeState host call i
  snapshot := quietly fun s => (.ok (store i s).values, s)
  emit := some (emit host call i)

/-- Runs a handler of a mount, and gives its trigger as it is afterwards, even if it failed. -/
def runHandler (i : Nat) (handler : Handler) (t : Trigger) (r : Recorded σ) :
    Except Fault Unit × Trigger × Recorded σ :=
  let (result, r') := (handler.run (surroundings host call i) t).runIn
    { r with session := { r.session with running := t :: r.session.running } }
  (result, r'.session.running.headD t,
    { r' with session := { r'.session with running := r'.session.running.tail } })

/-- Runs the callback under a key. What fails is reported and not passed on. -/
def invoke (i : Nat) (key : Key) (t : Trigger) (r : Recorded σ) : Option Trigger × Recorded σ :=
  match (r.session.mounts[i]?).bind fun m => m.callbacks.at? key with
  | none =>
    (none, { r with session := r.session.update i fun m => m.report (.callbackUnknown key) })
  | some callback =>
    let (result, t', r') := runHandler host call i callback.handler t r
    match result with
    | .ok () => (some t', r')
    | .error f => (some t',
        { r' with session := r'.session.update i fun m => m.report (.handlerRaised key.display f) })

/-- Mounts something in place of the present mount. -/
def mount (what : Mountable) (r : Recorded σ) : Except Fault (Option Nat) × Recorded σ :=
  let (result, s) := Session.mount host what r.session
  match s.mounts[r.session.mounts.length]? with
  | none => (result, { r with session := s })
  | some m =>
    (result, { r with session := s }.note (.mounting r.session.mounts.length m.definition))

/-- Carries out an operation, with `call` for the code of the host. -/
def performWith (op : Op σ) : Act (Recorded σ) Reply := fun r =>
  match op with
  | .mount what =>
    let (result, r') := mount host what r
    (result.map .mounted, r')
  | .invoke i key t =>
    let (result, r') := invoke host call i key t r
    (.ok (.ran result), r')
  | .runHandler i handler t =>
    let (result, t', r') := runHandler host call i handler t r
    (result.map fun _ => .ran (some t'), r')
  | .merge i changes =>
    match changes.toDictOrEmpty with
    | .error f => (.error f, r)
    | .ok changes =>
      let (result, r') := (mergeState host call i changes).runIn r
      (result.map fun _ => .done, r')
  | .render i =>
    (.ok .done, { r with session := r.session.update i Mount.render }.noteOf i (.rendering i))
  | op => quietly (Session.performWith host (fun _ => pure ()) op) r

end

/-- Runs host code, which is seen to find the session as each answer leaves it. -/
def runCode (perform : Op σ → Act (Recorded σ) Reply) : Code σ → Act (Recorded σ) Unit
  | .done => pure ()
  | .raise f => throw f
  | .ask op next => fun r =>
    let (answer, r') := (perform op).runIn r
    runCode perform (next answer r'.session) r'.see

/-- Runs host code that is called with the present session. -/
def call (perform : Op σ → Act (Recorded σ) Reply) (code : Session σ → Code σ) :
    Act (Recorded σ) Unit := fun r => runCode perform (code r.session) r.see

/-- Carries out an operation; calls from inside calls nest at most `depth` times. -/
def perform (host : Host σ) : Nat → Op σ → Act (Recorded σ) Reply
  | 0, _ => throw .nestedTooDeeply
  | depth + 1, op => performWith host (call (perform host depth)) op

/-- A recorded run of host code, from a session in which nothing was mounted yet. -/
def run (host : Host σ) (depth : Nat) (memory : σ) (code : Session σ → Code σ) :
    Except Fault Unit × Recorded σ :=
  (call (perform host depth) code).runIn ⟨.new memory, []⟩

end Recorded

end AssistantUI.Session
