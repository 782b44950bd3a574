import AssistantUI.Proofs.Act
import AssistantUI.Proofs.Session.Mounts

/-!
# Sessions that keep a ledger of invocations

Who invokes a key is told whether there was a callback, and not whether its handler failed. Here
every operation is carried out once more, in a world that has a ledger beside the session. A line is
written when an invocation ends, of the mount, the key and how it ended, so that an invocation from
inside another one comes first.

The ledger is only written, never read, so a run with a ledger does what the plain run does. A
property of sessions and ledgers holds after every run if each kind of step keeps it (`Booked`).
There are three kinds, told apart by what they have reporters note: a rendering may find something
wrong, the end of an invocation may be worth a note, and no other step leads to one.
-/

namespace AssistantUI.Session

/-- How an invocation ended. -/
inductive Ending where
  /-- There was no callback under the key. -/
  | unknown
  | done
  /-- The handler failed. -/
  | raised (f : Fault)

/-- An invocation of a key of a mount. -/
structure Invocation where
  mount : Nat
  key : Key
  ending : Ending

/-- What an invocation has the reporter of its mount note. -/
def Invocation.issue? (v : Invocation) : Option Issue :=
  match v.ending with
  | .unknown => some (.callbackUnknown v.key)
  | .done => none
  | .raised f => some (.handlerRaised v.key.display f)

/-- The mount with what the invocation leaves in its notes. -/
def Invocation.noteIn (v : Invocation) (m : Mount) : Mount := v.issue?.elim m m.report

/-- A session and the invocations that have ended so far, the earliest first. -/
structure Ledgered (σ : Type) where
  session : Session σ
  ledger : List Invocation

namespace Ledgered

variable {σ α : Type}

/-- Writes a line. -/
def enter (l : Ledgered σ) (v : Invocation) : Ledgered σ := { l with ledger := l.ledger ++ [v] }

/-- Does something to the session in which no invocation ends. -/
def quietly (a : Act (Session σ) α) : Act (Ledgered σ) α := fun l =>
  let (x, s) := a.runIn l.session
  (x, { l with session := s })

/-! ## Operations with a ledger -/

section

variable (host : Host σ) (call : (Session σ → Code σ) → Act (Ledgered σ) Unit)

/-- Calls a listener of a mount. -/
def listen (i : Nat) : Listener → State → Act (Ledgered σ) Unit
  | .rerender, changes => quietly (Session.listen host (fun _ => pure ()) i .rerender changes)
  | .host number, changes => call (host.onChange i number changes)

/-- Merges changes into the state of a mount. -/
def mergeState (i : Nat) (changes : State) : Act (Ledgered σ) Unit :=
  Store.merge (fun l => store i l.session)
    (fun l st => { l with session := l.session.update i fun m => { m with store := st } })
    (listen host call i) changes

/-- Tells the host of an event, on behalf of a mount that is not taken down. -/
def emit (i : Nat) (name : String) (payload : Payload) : Act (Ledgered σ) Unit := fun l =>
  match host.onEvent, l.session.mounts[i]? with
  | some onEvent, some m => if m.mounted then call (onEvent i name payload) l else (.ok (), l)
  | _, _ => (.ok (), l)

/-- What a handler of a mount acts on. -/
def surroundings (i : Nat) : Surroundings (Act (Ledgered σ)) where
  prevent := quietly preventDefault
  merge := mergeState host call i
  snapshot := quietly fun s => (.ok (store i s).values, s)
  emit := some (emit host call i)

/-- Runs a handler of a mount, and gives its trigger as it is afterwards, even if it failed. -/
def runHandler (i : Nat) (handler : Handler) (t : Trigger) (l : Ledgered σ) :
    Except Fault Unit × Trigger × Ledgered σ :=
  let (result, l') := (handler.run (surroundings host call i) t).runIn
    { l with session := { l.session with running := t :: l.session.running } }
  (result, l'.session.running.headD t,
    { l' with session := { l'.session with running := l'.session.running.tail } })

/-- Runs the callback under a key, and enters how that ended. -/
def invoke (i : Nat) (key : Key) (t : Trigger) (l : Ledgered σ) : Option Trigger × Ledgered σ :=
  match (l.session.mounts[i]?).bind fun m => m.callbacks.at? key with
  | none =>
    (none, { l with
      session := l.session.update i fun m => m.report (.callbackUnknown key) }.enter
        ⟨i, key, .unknown⟩)
  | some callback =>
    let (result, t', l') := runHandler host call i callback.handler t l
    match result with
    | .ok () => (some t', l'.enter ⟨i, key, .done⟩)
    | .error f =>
      (some t', { l' with
        session := l'.session.update i fun m => m.report (.handlerRaised key.display f) }.enter
          ⟨i, key, .raised f⟩)

/-- Carries out an operation, with `call` for the code of the host. -/
def performWith (op : Op σ) : Act (Ledgered σ) Reply := fun l =>
  match op with
  | .invoke i key t =>
    let (result, l') := invoke host call i key t l
    (.ok (.ran result), l')
  | .runHandler i handler t =>
    let (result, t', l') := runHandler host call i handler t l
    (result.map fun _ => .ran (some t'), l')
  | .merge i changes =>
    match changes.toDictOrEmpty with
    | .error f => (.error f, l)
    | .ok changes =>
      let (result, l') := (mergeState host call i changes).runIn l
      (result.map fun _ => .done, l')
  | op => quietly (Session.performWith host (fun _ => pure ()) op) l

end

/-- Runs host code, which finds the session as each answer leaves it. -/
def runCode (perform : Op σ → Act (Ledgered σ) Reply) : Code σ → Act (Ledgered σ) Unit
  | .done => pure ()
  | .raise f => throw f
  | .ask op next => fun l =>
    let (answer, l') := (perform op).runIn l
    runCode perform (next answer l'.session) l'

/-- Carries out an operation; calls from inside calls nest at most `depth` times. -/
def perform (host : Host σ) : Nat → Op σ → Act (Ledgered σ) Reply
  | 0, _ => throw .nestedTooDeeply
  | depth + 1, op =>
    performWith host (fun code l => runCode (perform host depth) (code l.session) l) op

/-- Runs host code in a session, with an empty ledger. -/
def run (host : Host σ) (depth : Nat) (s : Session σ) (code : Session σ → Code σ) :
    Except Fault Unit × Ledgered σ :=
  (runCode (perform host depth) (code s)).runIn ⟨s, []⟩

end Ledgered

variable {σ : Type}

/-! ## Steps -/

/-- What is mounted and what was noted of it. -/
def record (m : Mount) : Option Definition × Reporter := (m.definition, m.reporter)

theorem record_stop (m : Mount) : record m.stop = record m := by
  unfold Mount.stop
  split <;> rfl

/-- A property of sessions and ledgers that every kind of step keeps. -/
structure Booked (Inv : Ledgered σ → Prop) : Prop where
  keeps {l s} : Inv l → l.session.Keeps record s → Inv { l with session := s }
  render {l} {i : Nat} {m : Mount} : Inv l → l.session.mounts[i]? = some m →
    Inv { l with session := l.session.update i Mount.render }
  /-- An invocation ends, and what it leads to is noted. -/
  enter {l} (v : Invocation) : Inv l →
    Inv ({ l with session := l.session.update v.mount v.noteIn }.enter v)

/-- A session with a ledger beside the plain one, which keeps to an invariant. -/
structure Accompanied (Inv : Ledgered σ → Prop) (l : Ledgered σ) (s : Session σ) : Prop where
  same : l.session = s
  inv : Inv l

namespace Booked

variable {Inv : Ledgered σ → Prop} (h : Booked Inv)
include h

/-- A change of a mount that touches neither its definition nor its notes. -/
theorem update {l : Ledgered σ} (hinv : Inv l) (i : Nat) {f : Mount → Mount}
    (hf : ∀ m, record (f m) = record m) :
    Accompanied Inv { l with session := l.session.update i f } (l.session.update i f) :=
  ⟨rfl, h.keeps hinv (.update _ i fun m _ => hf m)⟩

section

variable (host : Host σ) {call : (Session σ → Code σ) → Act (Ledgered σ) Unit}
  {call' : (Session σ → Code σ) → Act (Session σ) Unit}
  (hcall : ∀ code, Act.Simulates (Accompanied Inv) (call code) (call' code))
include hcall

theorem listen_simulates (i : Nat) (listener : Listener) (changes : State) :
    Act.Simulates (Accompanied Inv) (Ledgered.listen host call i listener changes)
      (Session.listen host call' i listener changes) := by
  cases listener with
  | host number => exact hcall _
  | rerender =>
    rintro l _ ⟨rfl, hinv⟩
    refine ⟨rfl, rfl, ?_⟩
    show Inv { l with session := l.session.update i Mount.rerender }
    cases hm : l.session.mounts[i]? with
    | none =>
      rw [update_of_none hm]
      exact hinv
    | some m =>
      by_cases hmounted : m.mounted = true
      · have hrender : l.session.update i Mount.rerender = l.session.update i Mount.render := by
          refine update_congr fun k hk => ?_
          obtain rfl := Option.some.inj (hm.symm.trans hk)
          exact if_pos hmounted
        rw [hrender]
        exact h.render hinv hm
      · refine h.keeps hinv (.update _ i fun k hk => ?_)
        obtain rfl := Option.some.inj (hm.symm.trans hk)
        rw [Mount.rerender, if_neg hmounted]

theorem mergeState_simulates (i : Nat) (changes : State) :
    Act.Simulates (Accompanied Inv) (Ledgered.mergeState host call i changes)
      (Session.mergeState host call' i changes) := by
  refine Store.merge_simulates ?_
  rintro l _ ⟨rfl, hinv⟩ -
  have hwritten := h.update hinv i
    (f := fun m => { m with store := (store i l.session).write changes }) fun _ => rfl
  exact Store.notify_simulates (fun k _ => h.listen_simulates host hcall i k changes) _ _ hwritten

theorem surroundings_simulates (i : Nat) :
    (Ledgered.surroundings host call i).Simulates (Accompanied Inv)
      (Session.surroundings host call' i) where
  prevent := by
    rintro l _ ⟨rfl, hinv⟩
    exact ⟨rfl, rfl, h.keeps hinv (.of_mounts rfl)⟩
  merge := h.mergeState_simulates host hcall i
  snapshot := by
    rintro l _ ⟨rfl, hinv⟩
    exact ⟨rfl, rfl, hinv⟩
  emit := .some fun name payload => by
    rintro l _ ⟨rfl, hinv⟩
    dsimp only [Ledgered.emit, Session.emit, Act.runIn]
    cases host.onEvent with
    | none => exact ⟨rfl, rfl, hinv⟩
    | some onEvent =>
      cases l.session.mounts[i]? with
      | none => exact ⟨rfl, rfl, hinv⟩
      | some m =>
        dsimp only
        by_cases hmounted : m.mounted = true
        · rw [if_pos hmounted, if_pos hmounted]
          exact hcall _ _ _ ⟨rfl, hinv⟩
        · rw [if_neg hmounted, if_neg hmounted]
          exact ⟨rfl, rfl, hinv⟩

theorem runHandler_simulates (i : Nat) (handler : Handler) (t : Trigger) {l : Ledgered σ}
    {s : Session σ} (hl : Accompanied Inv l s) :
    (Ledgered.runHandler host call i handler t l).1 =
        (Session.runHandler host call' i handler t s).1 ∧
      (Ledgered.runHandler host call i handler t l).2.1 =
        (Session.runHandler host call' i handler t s).2.1 ∧
      Accompanied Inv (Ledgered.runHandler host call i handler t l).2.2
        (Session.runHandler host call' i handler t s).2.2 := by
  obtain ⟨rfl, hinv⟩ := hl
  -- the trigger is on top of the running ones while its handler runs
  have hpushed : Accompanied Inv
      { l with session := { l.session with running := t :: l.session.running } }
      { l.session with running := t :: l.session.running } :=
    ⟨rfl, h.keeps hinv (.of_mounts rfl)⟩
  obtain ⟨hresult, hsame, hinv'⟩ :=
    Handler.run_simulates (h.surroundings_simulates host hcall i) t handler _ _ hpushed
  unfold Ledgered.runHandler Session.runHandler
  refine ⟨hresult, ?_, ?_, ?_⟩
  · exact congrArg (fun s : Session σ => s.running.headD t) hsame
  · exact congrArg (fun s : Session σ => { s with running := s.running.tail }) hsame
  · exact h.keeps hinv' (.of_mounts rfl)

theorem invoke_simulates (i : Nat) (key : Key) (t : Trigger) {l : Ledgered σ} {s : Session σ}
    (hl : Accompanied Inv l s) :
    (Ledgered.invoke host call i key t l).1 = (Session.invoke host call' i key t s).1 ∧
      Accompanied Inv (Ledgered.invoke host call i key t l).2
        (Session.invoke host call' i key t s).2 := by
  obtain ⟨rfl, hinv⟩ := hl
  unfold Ledgered.invoke Session.invoke
  cases (l.session.mounts[i]?).bind fun m => m.callbacks.at? key with
  | none => exact ⟨rfl, rfl, h.enter ⟨i, key, .unknown⟩ hinv⟩
  | some callback =>
    obtain ⟨hresult, htrigger, hsame, hinv'⟩ :=
      h.runHandler_simulates host hcall i callback.handler t ⟨rfl, hinv⟩
    dsimp only
    rw [hresult, htrigger]
    cases (Session.runHandler host call' i callback.handler t l.session).1 with
    | ok _ =>
      -- there is nothing to be noted
      have hdone := h.enter ⟨i, key, .done⟩ hinv'
      have hnoteIn : Invocation.noteIn ⟨i, key, .done⟩ = fun m => m := rfl
      rw [hnoteIn, update_id] at hdone
      exact ⟨rfl, hsame, hdone⟩
    | error f =>
      exact ⟨rfl, congrArg (Session.update · i _) hsame, h.enter ⟨i, key, .raised f⟩ hinv'⟩

omit hcall in
/-- An operation in which no code of the host is called, and no mount is rendered. -/
theorem quietly_simulates {op : Op σ} {l : Ledgered σ} {r : Except Fault Reply × Session σ}
    (hinv : Inv l) (hr : (Session.performWith host (fun _ => pure ()) op).runIn l.session = r)
    (hkeeps : l.session.Keeps record r.2) :
    let p := (Ledgered.quietly (Session.performWith host (fun _ => pure ()) op)).runIn l
    p.1 = r.1 ∧ Accompanied Inv p.2 r.2 := by
  subst hr
  exact ⟨rfl, rfl, h.keeps hinv hkeeps⟩

theorem performWith_simulates (op : Op σ) :
    Act.Simulates (Accompanied Inv) (Ledgered.performWith host call op)
      (Session.performWith host call' op) := by
  rintro l _ ⟨rfl, hinv⟩
  cases op with
  | invoke i key t =>
    obtain ⟨hresult, haccompanied⟩ := h.invoke_simulates host hcall i key t ⟨rfl, hinv⟩
    exact ⟨congrArg (fun x => Except.ok (Reply.ran x)) hresult, haccompanied⟩
  | runHandler i handler t =>
    obtain ⟨hresult, htrigger, haccompanied⟩ :=
      h.runHandler_simulates host hcall i handler t ⟨rfl, hinv⟩
    dsimp only [Ledgered.performWith, Session.performWith, Act.runIn]
    rw [hresult, htrigger]
    exact ⟨rfl, haccompanied⟩
  | merge i changes =>
    dsimp only [Ledgered.performWith, Session.performWith, Act.runIn]
    cases changes.toDictOrEmpty with
    | error f => exact ⟨rfl, rfl, hinv⟩
    | ok changes =>
      obtain ⟨hresult, haccompanied⟩ :=
        h.mergeState_simulates host hcall i changes l _ ⟨rfl, hinv⟩
      exact ⟨congrArg (Except.map fun _ => Reply.done) hresult, haccompanied⟩
  | render i =>
    refine ⟨rfl, rfl, ?_⟩
    show Inv { l with session := l.session.update i Mount.render }
    cases hm : l.session.mounts[i]? with
    | none =>
      rw [update_of_none hm]
      exact hinv
    | some m => exact h.render hinv hm
  | mount what =>
    refine h.quietly_simulates host hinv rfl ?_
    show l.session.Keeps record (Session.mount host what l.session).2
    rcases session_mount host l.session what with hsame | ⟨definition, issues, hstarted⟩
    · rw [hsame]
      exact .unmount _ record_stop
    · rw [hstarted]
      exact (Keeps.unmount _ record_stop).trans (.start _ _)
  | unmount => exact h.quietly_simulates host hinv rfl (.unmount _ record_stop)
  | stop i =>
    exact h.quietly_simulates host hinv rfl
      (.update _ i fun m _ => record_stop m)
  | subscribe i number | unsubscribe i number =>
    exact h.quietly_simulates host hinv rfl (.update _ i fun _ _ => rfl)
  | remember memory =>
    exact h.quietly_simulates host hinv rfl (.of_mounts rfl)

end

/-! ## Runs -/

omit h in
theorem runCode_simulates {perform : Op σ → Act (Ledgered σ) Reply}
    {perform' : Op σ → Act (Session σ) Reply}
    (hperform : ∀ op, Act.Simulates (Accompanied Inv) (perform op) (perform' op)) (code : Code σ) :
    Act.Simulates (Accompanied Inv) (Ledgered.runCode perform code) (code.run perform') := by
  induction code with
  | done => exact .pure ()
  | raise f => exact .throw f
  | ask op next ih =>
    intro l s hl
    obtain ⟨hanswer, hsame, hinv⟩ := hperform op l s hl
    have hnext : Accompanied Inv ((perform op).runIn l).2 ((perform' op).runIn s).2 := ⟨hsame, hinv⟩
    dsimp only [Ledgered.runCode, Script.run, Act.runIn] at hanswer hsame hnext ⊢
    rw [hanswer, hsame]
    exact ih _ _ _ _ hnext

/-- However deeply calls nest, an operation does what it does without a ledger. -/
theorem perform_simulates (host : Host σ) (depth : Nat) (op : Op σ) :
    Act.Simulates (Accompanied Inv) (Ledgered.perform host depth op)
      (Session.perform host depth op) := by
  induction depth generalizing op with
  | zero => exact .throw _
  | succ depth ih =>
    refine h.performWith_simulates host (fun code => ?_) op
    rintro l _ ⟨rfl, hinv⟩
    exact runCode_simulates ih (code l.session) _ _ ⟨rfl, hinv⟩

/-- **What every step keeps holds after every run**, and the ledger changes nothing of a run. -/
theorem run (host : Host σ) (depth : Nat) {s : Session σ} (hstart : Inv ⟨s, []⟩)
    (code : Session σ → Code σ) :
    (Ledgered.run host depth s code).1 =
        (((code s).run (Session.perform host depth)).runIn s).1 ∧
      (Ledgered.run host depth s code).2.session =
        (((code s).run (Session.perform host depth)).runIn s).2 ∧
      Inv (Ledgered.run host depth s code).2 := by
  obtain ⟨hresult, haccompanied⟩ :=
    runCode_simulates (h.perform_simulates host depth) (code s) _ _ ⟨rfl, hstart⟩
  exact ⟨hresult, haccompanied.same, haccompanied.inv⟩

end Booked

end AssistantUI.Session
