import AssistantUI.Proofs.Session.Journal
import AssistantUI.Proofs.Session.Mounts

/-!
# Invariants of sessions

A merge calls listeners one by one, and any of them may be code that merges again, mounts
something else or fails. An invariant of sessions is still checked step by step: host code is
only called once the mount has rendered, so writing changes and rendering count as one step.

`Steady` lists the steps. Whatever keeps to them holds wherever a recorded run comes to, and
the recorded run does what the plain one does (`Steady.run`).

What the host itself does, when it is told of an event and with its memory, can be left open:
`Undisturbed` lists the other steps. An operation keeps what none of them disturbs as soon as the
code does that the host runs in the course of it.
-/

namespace AssistantUI.Session

variable {σ : Type}

theorem Recorded.noteOf_none {r : Recorded σ} {i : Nat} (h : r.session.mounts[i]? = none)
    (e : Moment σ) : r.noteOf i e = r := by
  rw [noteOf, h]
  rfl

theorem Recorded.noteOf_some {r : Recorded σ} {i : Nat} {m : Mount}
    (h : r.session.mounts[i]? = some m) (e : Moment σ) : r.noteOf i e = r.note e := by
  rw [noteOf, h]
  rfl

/-! ## The beginning of a merge -/

section

variable {i : Nat} {m : Mount} {rest : List Listener} {changes : State}

/-- A mount that is mounted renders as soon as changes are written. -/
theorem rerender_written {s : Session σ} (hm : s.mounts[i]? = some m) :
    (s.update i fun k => { k with store := m.store.write changes }).update i Mount.rerender =
      s.update i (Mount.merge changes) := by
  rw [update_update]
  refine update_congr fun k hk => ?_
  obtain rfl := Option.some.inj (hm.symm.trans hk)
  rfl

theorem written_of_not_mounted {s : Session σ} (hm : s.mounts[i]? = some m)
    (hmounted : ¬ m.mounted = true) :
    (s.update i fun k => { k with store := m.store.write changes }) =
      s.update i (Mount.merge changes) := by
  refine update_congr fun k hk => ?_
  obtain rfl := Option.some.inj (hm.symm.trans hk)
  exact (Mount.merge_of_not_mounted hmounted changes).symm

/-- By the time that other listeners hear of changes, the mount has merged them. -/
theorem runIn_notify_written {host : Host σ} {call : (Session σ → Code σ) → Act (Session σ) Unit}
    {s : Session σ} (hm : s.mounts[i]? = some m)
    (hl : m.store.listeners = (if m.mounted then [.rerender] else []) ++ rest) :
    (Store.notify (listen host call i) changes m.store.listeners).runIn
        (s.update i fun k => { k with store := m.store.write changes }) =
      (Store.notify (listen host call i) changes rest).runIn
        (s.update i (Mount.merge changes)) := by
  rw [hl]
  by_cases hmounted : m.mounted = true
  · rw [if_pos hmounted, List.singleton_append, Store.runIn_notify_cons rfl, ← rerender_written hm]
    rfl
  · rw [if_neg hmounted, List.nil_append, written_of_not_mounted hm hmounted]

theorem Recorded.runIn_notify_written {host : Host σ}
    {call : (Session σ → Code σ) → Act (Recorded σ) Unit} {r : Recorded σ} {e : Moment σ}
    (hm : r.session.mounts[i]? = some m)
    (hl : m.store.listeners = (if m.mounted then [.rerender] else []) ++ rest) :
    (Store.notify (Recorded.listen host call i) changes m.store.listeners).runIn
        ({ r with session := r.session.update i fun k =>
          { k with store := m.store.write changes } }.noteOf i e) =
      (Store.notify (Recorded.listen host call i) changes rest).runIn
        ({ r with session := r.session.update i (Mount.merge changes) }.note e) := by
  have hget : (r.session.update i fun k => { k with store := m.store.write changes }).mounts[i]? =
      some { m with store := m.store.write changes } := by
    rw [get?_update, if_pos rfl, hm]
    rfl
  rw [hl, Recorded.noteOf_some (by exact hget)]
  by_cases hmounted : m.mounted = true
  · rw [if_pos hmounted, List.singleton_append, Store.runIn_notify_cons rfl, ← rerender_written hm]
    rfl
  · rw [if_neg hmounted, List.nil_append, written_of_not_mounted hm hmounted]

end

/-! ## Steps -/

/--
An invariant of recorded sessions that is kept by every step: a line of the journal, a change
that no mount shows, and each change that one does.
-/
structure Steady (Inv : Recorded σ → Prop) : Prop where
  seeing {r} : Inv r → Inv r.see
  telling {r} {i : Nat} {m : Mount} (name : String) (payload : Payload) : Inv r →
    r.session.mounts[i]? = some m → m.mounted = true → Inv (r.note (.telling i name payload))
  /-- Reports, listeners of the host, running triggers and the memory of the host. -/
  hidden {r} {s : Session σ} : Inv r → s.current = r.session.current →
    s.mounts.map Mount.face = r.session.mounts.map Mount.face → Inv { r with session := s }
  stop {r} (i : Nat) : Inv r → Inv { r with session := r.session.update i Mount.stop }
  unmount {r} : Inv r → Inv { r with session := r.session.unmount }
  start {r} (id : String) (definition : Option Definition) (issues : List Issue) : Inv r →
    r.session.current = none →
    Inv ({ r with session := r.session.start (Mount.start id definition issues) }.note
      (.mounting r.session.mounts.length definition))
  render {r} {i : Nat} {m : Mount} : Inv r → r.session.mounts[i]? = some m →
    Inv ({ r with session := r.session.update i Mount.render }.note (.rendering i))
  merge {r} {i : Nat} {m : Mount} {changes : State} : Inv r → r.session.mounts[i]? = some m →
    changes.isEmpty = false →
    Inv ({ r with session := r.session.update i (Mount.merge changes) }.note (.merging i changes))

/--
An invariant of recorded sessions that is kept by every step that is not the host's own. The
memory of the host stays as it is, and the host is told of nothing.
-/
structure Undisturbed (Inv : Recorded σ → Prop) : Prop where
  seeing {r} : Inv r → Inv r.see
  /-- Reports, listeners of the host and running triggers. -/
  hidden {r} {s : Session σ} : Inv r → s.current = r.session.current → s.host = r.session.host →
    s.mounts.map Mount.face = r.session.mounts.map Mount.face → Inv { r with session := s }
  stop {r} (i : Nat) : Inv r → Inv { r with session := r.session.update i Mount.stop }
  unmount {r} : Inv r → Inv { r with session := r.session.unmount }
  start {r} (id : String) (definition : Option Definition) (issues : List Issue) : Inv r →
    r.session.current = none →
    Inv ({ r with session := r.session.start (Mount.start id definition issues) }.note
      (.mounting r.session.mounts.length definition))
  render {r} {i : Nat} {m : Mount} : Inv r → r.session.mounts[i]? = some m →
    Inv ({ r with session := r.session.update i Mount.render }.note (.rendering i))
  merge {r} {i : Nat} {m : Mount} {changes : State} : Inv r → r.session.mounts[i]? = some m →
    changes.isEmpty = false →
    Inv ({ r with session := r.session.update i (Mount.merge changes) }.note (.merging i changes))

theorem Steady.undisturbed {Inv : Recorded σ → Prop} (h : Steady Inv) : Undisturbed Inv where
  seeing := h.seeing
  hidden hinv hcurrent _ hface := h.hidden hinv hcurrent hface
  stop := h.stop
  unmount := h.unmount
  start := h.start
  render := h.render
  merge := h.merge

/-- A recorded session beside the plain one, which keeps to an invariant. -/
structure Coupled (Inv : Recorded σ → Prop) (r : Recorded σ) (s : Session σ) : Prop where
  same : r.session = s
  heard : s.Heard
  inv : Inv r

/-- An operation runs a handler of a mount. -/
def Op.Runs (s : Session σ) (i : Nat) (handler : Handler) : Op σ → Prop
  | .invoke j key _ => j = i ∧ ∃ callback,
      ((s.mounts[i]?).bind fun m => m.callbacks.at? key) = some callback ∧
        callback.handler = handler
  | .runHandler j handler' _ => j = i ∧ handler' = handler
  | _ => False

section

variable (Inv : Recorded σ → Prop) (host : Host σ)
  (call : (Session σ → Code σ) → Act (Recorded σ) Unit)
  (call' : (Session σ → Code σ) → Act (Session σ) Unit)

/-- What a handler of a mount tells leads to the same, recorded and unrecorded. -/
def TellsAlike (i : Nat) (handler : Handler) : Prop :=
  ∀ name payload, handler.tells = some (name, payload) →
    Act.Simulates (Coupled Inv) ((Recorded.surroundings host call i).tell name payload)
      ((surroundings host call' i).tell name payload)

/-- Code that listens to the state of a mount does the same. -/
def ListensAlike : Prop :=
  ∀ i number changes, Act.Simulates (Coupled Inv) (call (host.onChange i number changes))
    (call' (host.onChange i number changes))

end

/-- Listeners of the host, one after another. -/
theorem notify_simulates {Inv : Recorded σ → Prop} {host : Host σ}
    {call : (Session σ → Code σ) → Act (Recorded σ) Unit}
    {call' : (Session σ → Code σ) → Act (Session σ) Unit}
    (hlisten : ListensAlike Inv host call call') (i : Nat) (changes : State)
    {listeners : List Listener} (hl : .rerender ∉ listeners) :
    Act.Simulates (Coupled Inv)
      (Store.notify (Recorded.listen host call i) changes listeners)
      (Store.notify (listen host call' i) changes listeners) := by
  refine Store.notify_simulates fun l hmem => ?_
  cases l with
  | rerender => exact absurd hmem hl
  | host number => exact hlisten i number changes

/-- A handler tells the host, if there is one, of what the state of the mount is then. -/
theorem tellsAlike_of_told {Inv : Recorded σ → Prop} {host : Host σ}
    {call : (Session σ → Code σ) → Act (Recorded σ) Unit}
    {call' : (Session σ → Code σ) → Act (Session σ) Unit} {i : Nat} {handler : Handler}
    (h : ∀ onEvent name payload, host.onEvent = some onEvent →
      handler.tells = some (name, payload) → ∀ r m, Coupled Inv r r.session →
      r.session.mounts[i]? = some m → m.mounted = true →
      let code := onEvent i name (payload m.store.values)
      let r' := (call code).runIn (r.note (.telling i name (payload m.store.values)))
      let s' := (call' code).runIn r.session
      r'.1 = s'.1 ∧ Coupled Inv r'.2 s'.2) :
    TellsAlike Inv host call call' i handler := by
  rintro name payload htells r _ ⟨rfl, hheard, hinv⟩
  show (Recorded.emit host call i name (payload (store i r.session).values) r).1 =
      (emit host call' i name (payload (store i r.session).values) r.session).1 ∧
    Coupled Inv (Recorded.emit host call i name (payload (store i r.session).values) r).2
      (emit host call' i name (payload (store i r.session).values) r.session).2
  unfold Recorded.emit emit
  cases hhost : host.onEvent with
  | none => exact ⟨rfl, rfl, hheard, hinv⟩
  | some onEvent =>
    cases hm : r.session.mounts[i]? with
    | none => exact ⟨rfl, rfl, hheard, hinv⟩
    | some m =>
      have hstore : store i r.session = m.store := store_of_get hm
      dsimp only
      by_cases hmounted : m.mounted = true
      · rw [if_pos hmounted, if_pos hmounted, hstore]
        exact h onEvent name payload hhost htells r m ⟨rfl, hheard, hinv⟩ hm hmounted
      · rw [if_neg hmounted, if_neg hmounted]
        exact ⟨rfl, rfl, hheard, hinv⟩

namespace Undisturbed

variable {Inv : Recorded σ → Prop} (h : Undisturbed Inv)
include h

/-- A change that shows nowhere keeps the invariant, whichever listeners it leaves. -/
theorem hidden_update {r : Recorded σ} (hinv : Inv r) (i : Nat) {f : Mount → Mount}
    (hf : ∀ m, (f m).face = m.face) : Inv { r with session := r.session.update i f } :=
  h.hidden hinv rfl rfl (map_face_update r.session i hf)

section

variable {host : Host σ} {call : (Session σ → Code σ) → Act (Recorded σ) Unit}
  {call' : (Session σ → Code σ) → Act (Session σ) Unit}
  (hlisten : ListensAlike Inv host call call')
include hlisten

theorem mergeState_simulates (i : Nat) (changes : State) :
    Act.Simulates (Coupled Inv) (Recorded.mergeState host call i changes)
      (Session.mergeState host call' i changes) := by
  refine Store.merge_simulates ?_
  rintro r _ ⟨rfl, hheard, hinv⟩ hchanges
  dsimp only
  cases hm : r.session.mounts[i]? with
  | none =>
    -- there is no store to write into, and nobody to hear of it
    have hstore : store i r.session = Store.new ∅ := by rw [store, hm]; rfl
    rw [hstore, update_of_none hm, Recorded.noteOf_none hm]
    exact ⟨rfl, rfl, hheard, hinv⟩
  | some m =>
    have hstore : store i r.session = m.store := store_of_get hm
    obtain ⟨rest, hrest, hlisteners⟩ := hheard i m hm
    have hcoupled : Coupled Inv
        ({ r with session := r.session.update i (Mount.merge changes) }.note (.merging i changes))
        (r.session.update i (Mount.merge changes)) :=
      ⟨rfl, heard_update hheard i fun k hk => Mount.heard_merge hk changes,
        h.merge hinv hm hchanges⟩
    rw [hstore, Recorded.runIn_notify_written hm hlisteners, runIn_notify_written hm hlisteners]
    exact notify_simulates hlisten i changes hrest _ _ hcoupled

omit hlisten in
theorem prevent_simulates (i : Nat) : Act.Simulates (Coupled Inv)
    (Recorded.surroundings host call i).prevent (surroundings host call' i).prevent := by
  rintro r _ ⟨rfl, hheard, hinv⟩
  exact ⟨rfl, rfl, hheard, h.hidden hinv rfl rfl rfl⟩

theorem runHandler_simulates {i : Nat} {handler : Handler}
    (htell : TellsAlike Inv host call call' i handler) (t : Trigger) {r : Recorded σ}
    {s : Session σ} (hr : Coupled Inv r s) :
    (Recorded.runHandler host call i handler t r).1 =
        (Session.runHandler host call' i handler t s).1 ∧
      (Recorded.runHandler host call i handler t r).2.1 =
        (Session.runHandler host call' i handler t s).2.1 ∧
      Coupled Inv (Recorded.runHandler host call i handler t r).2.2
        (Session.runHandler host call' i handler t s).2.2 := by
  obtain ⟨rfl, hheard, hinv⟩ := hr
  -- the trigger is on top of the running ones while its handler runs
  have hpushed : Coupled Inv
      { r with session := { r.session with running := t :: r.session.running } }
      { r.session with running := t :: r.session.running } :=
    ⟨rfl, hheard, h.hidden hinv rfl rfl rfl⟩
  obtain ⟨hresult, hsame, hheard', hinv'⟩ :=
    Handler.run_simulates_of_steps (h.prevent_simulates i) (h.mergeState_simulates hlisten i)
      handler htell t _ _ hpushed
  unfold Recorded.runHandler Session.runHandler
  refine ⟨hresult, ?_, ?_, ?_, ?_⟩
  · exact congrArg (fun s : Session σ => s.running.headD t) hsame
  · exact congrArg (fun s : Session σ => { s with running := s.running.tail }) hsame
  · exact hheard'
  · exact h.hidden hinv' rfl rfl rfl

theorem invoke_simulates {i : Nat} {key : Key} {r : Recorded σ} {s : Session σ}
    (htell : ∀ callback, ((r.session.mounts[i]?).bind fun m => m.callbacks.at? key) =
      some callback → TellsAlike Inv host call call' i callback.handler)
    (t : Trigger) (hr : Coupled Inv r s) :
    (Recorded.invoke host call i key t r).1 = (Session.invoke host call' i key t s).1 ∧
      Coupled Inv (Recorded.invoke host call i key t r).2
        (Session.invoke host call' i key t s).2 := by
  obtain ⟨rfl, hheard, hinv⟩ := hr
  unfold Recorded.invoke Session.invoke
  cases hcallback : (r.session.mounts[i]?).bind fun m => m.callbacks.at? key with
  | none =>
    exact ⟨rfl, rfl, heard_update hheard i fun _ hm => hm, h.hidden_update hinv i fun _ => rfl⟩
  | some callback =>
    obtain ⟨hresult, htrigger, hcoupled⟩ :=
      h.runHandler_simulates hlisten (htell callback hcallback) t ⟨rfl, hheard, hinv⟩
    dsimp only
    rw [hresult, htrigger]
    cases (Session.runHandler host call' i callback.handler t r.session).1 with
    | ok _ => exact ⟨rfl, hcoupled⟩
    | error f =>
      -- the failure becomes a report, and reports show nowhere
      obtain ⟨hsame, hheard', hinv'⟩ := hcoupled
      exact ⟨rfl, congrArg (Session.update · i _) hsame, heard_update hheard' i fun _ hm => hm,
        h.hidden_update hinv' i fun _ => rfl⟩

omit hlisten in
theorem mount_simulates (host : Host σ) (what : Mountable) {r : Recorded σ} {s : Session σ}
    (hr : Coupled Inv r s) :
    (Recorded.mount host what r).1 = (Session.mount host what s).1 ∧
      Coupled Inv (Recorded.mount host what r).2 (Session.mount host what s).2 := by
  obtain ⟨rfl, hheard, hinv⟩ := hr
  -- the present mount goes first, and keeps its number
  have hlength : r.session.unmount.mounts.length = r.session.mounts.length := length_unmount _
  have hnone : r.session.unmount.mounts[r.session.mounts.length]? = none :=
    List.getElem?_eq_none_iff.mpr (Nat.le_of_eq hlength)
  have hheard' := heard_unmount hheard
  have hinv' := h.unmount hinv
  unfold Recorded.mount Session.mount
  dsimp only
  by_cases hnull : what.isNull = true
  · rw [if_pos hnull]
    dsimp only
    rw [hnone]
    exact ⟨rfl, rfl, hheard', hinv'⟩
  · rw [if_neg hnull]
    cases what.parse with
    | error f =>
      dsimp only
      rw [hnone]
      exact ⟨rfl, rfl, hheard', hinv'⟩
    | ok parsed =>
      obtain ⟨definition, issues⟩ := parsed
      dsimp only
      generalize host.mountId _ = id
      have hget : (r.session.unmount.start (Mount.start id definition issues)).mounts[
          r.session.mounts.length]? = some (Mount.start id definition issues) := by
        rw [Session.start, ← hlength, List.getElem?_concat_length]
      rw [hget, ← hlength]
      refine ⟨rfl, rfl, heard_start hheard' (Mount.heard_start id definition issues), ?_⟩
      exact h.start id definition issues hinv' (current_unmount _)

/--
An operation does the same, recorded and unrecorded, if what its handler tells leads to the same,
and if the invariant does not mind what the host is to remember.
-/
theorem performWith_simulates {op : Op σ} {r : Recorded σ} {s : Session σ}
    (htell : ∀ i handler, op.Runs r.session i handler → TellsAlike Inv host call call' i handler)
    (hremember : ∀ memory, op = .remember memory →
      Inv { r with session := { r.session with host := memory } })
    (hr : Coupled Inv r s) :
    ((Recorded.performWith host call op).runIn r).1 =
        ((Session.performWith host call' op).runIn s).1 ∧
      Coupled Inv ((Recorded.performWith host call op).runIn r).2
        ((Session.performWith host call' op).runIn s).2 := by
  cases op with
  | mount what =>
    obtain ⟨hresult, hcoupled⟩ := h.mount_simulates host what hr
    exact ⟨congrArg (Except.map Reply.mounted) hresult, hcoupled⟩
  | invoke i key t =>
    obtain ⟨hresult, hcoupled⟩ := h.invoke_simulates hlisten
      (fun callback hcallback => htell i _ ⟨rfl, callback, hcallback, rfl⟩) t hr
    exact ⟨congrArg (fun x => Except.ok (Reply.ran x)) hresult, hcoupled⟩
  | runHandler i handler t =>
    obtain ⟨hresult, htrigger, hcoupled⟩ :=
      h.runHandler_simulates hlisten (htell i handler ⟨rfl, rfl⟩) t hr
    dsimp only [Recorded.performWith, Session.performWith, Act.runIn]
    rw [hresult, htrigger]
    exact ⟨rfl, hcoupled⟩
  | merge i changes =>
    dsimp only [Recorded.performWith, Session.performWith, Act.runIn]
    cases changes.toDictOrEmpty with
    | error f => exact ⟨rfl, hr⟩
    | ok changes =>
      obtain ⟨hresult, hcoupled⟩ := h.mergeState_simulates hlisten i changes r s hr
      exact ⟨congrArg (Except.map fun _ => Reply.done) hresult, hcoupled⟩
  | render i =>
    obtain ⟨rfl, hheard, hinv⟩ := hr
    dsimp only [Recorded.performWith, Session.performWith, Act.runIn]
    cases hm : r.session.mounts[i]? with
    | none =>
      rw [update_of_none hm, Recorded.noteOf_none hm]
      exact ⟨rfl, rfl, hheard, hinv⟩
    | some m =>
      have hget : (r.session.update i Mount.render).mounts[i]? = some m.render := by
        rw [get?_update, if_pos rfl, hm]
        rfl
      rw [Recorded.noteOf_some (by exact hget)]
      exact ⟨rfl, rfl, heard_update hheard i fun _ hk => hk, h.render hinv hm⟩
  | unmount =>
    obtain ⟨rfl, hheard, hinv⟩ := hr
    exact ⟨rfl, rfl, heard_unmount hheard, h.unmount hinv⟩
  | stop i =>
    obtain ⟨rfl, hheard, hinv⟩ := hr
    exact ⟨rfl, rfl, heard_update hheard i fun _ => Mount.heard_stop, h.stop i hinv⟩
  | subscribe i number =>
    obtain ⟨rfl, hheard, hinv⟩ := hr
    exact ⟨rfl, rfl, heard_update hheard i fun _ hm => Mount.heard_subscribe hm number,
      h.hidden_update hinv i fun _ => rfl⟩
  | unsubscribe i number =>
    obtain ⟨rfl, hheard, hinv⟩ := hr
    exact ⟨rfl, rfl, heard_update hheard i fun _ hm => Mount.heard_unsubscribe hm number,
      h.hidden_update hinv i fun _ => rfl⟩
  | remember memory =>
    obtain ⟨rfl, hheard, hinv⟩ := hr
    exact ⟨rfl, rfl, hheard, hremember memory rfl⟩

end

end Undisturbed

namespace Steady

variable {Inv : Recorded σ → Prop} (h : Steady Inv)
include h

section

variable {host : Host σ} {call : (Session σ → Code σ) → Act (Recorded σ) Unit}
  {call' : (Session σ → Code σ) → Act (Session σ) Unit}
  (hcall : ∀ code, Act.Simulates (Coupled Inv) (call code) (call' code))
include hcall

theorem performWith_simulates (op : Op σ) :
    Act.Simulates (Coupled Inv) (Recorded.performWith host call op)
      (Session.performWith host call' op) := by
  intro r s hr
  refine h.undisturbed.performWith_simulates (fun _ _ _ => hcall _) (fun i handler _ => ?_) ?_ hr
  · refine tellsAlike_of_told fun onEvent name payload _ _ q m hq hm hmounted => ?_
    exact hcall _ _ _ ⟨rfl, hq.heard, h.telling name _ hq.inv hm hmounted⟩
  · exact fun memory _ => h.hidden hr.inv rfl rfl

end

/-! ## Runs -/

theorem runCode_simulates {perform : Op σ → Act (Recorded σ) Reply}
    {perform' : Op σ → Act (Session σ) Reply}
    (hperform : ∀ op, Act.Simulates (Coupled Inv) (perform op) (perform' op)) (code : Code σ) :
    Act.Simulates (Coupled Inv) (Recorded.runCode perform code) (code.run perform') := by
  induction code with
  | done => exact .pure ()
  | raise f => exact .throw f
  | ask op next ih =>
    intro r s hr
    obtain ⟨hanswer, hsame, hheard, hinv⟩ := hperform op r s hr
    have hseen : Coupled Inv ((perform op).runIn r).2.see ((perform' op).runIn s).2 :=
      ⟨hsame, hheard, h.seeing hinv⟩
    dsimp only [Recorded.runCode, Script.run, Act.runIn] at hanswer hsame hseen ⊢
    rw [hanswer, hsame]
    exact ih _ _ _ _ hseen

theorem call_simulates {perform : Op σ → Act (Recorded σ) Reply}
    {perform' : Op σ → Act (Session σ) Reply}
    (hperform : ∀ op, Act.Simulates (Coupled Inv) (perform op) (perform' op))
    (code : Session σ → Code σ) :
    Act.Simulates (Coupled Inv) (Recorded.call perform code)
      (fun s => (code s).run perform' s) := by
  rintro r _ ⟨rfl, hheard, hinv⟩
  exact h.runCode_simulates hperform (code r.session) _ _ ⟨rfl, hheard, h.seeing hinv⟩

/-- However deeply calls nest, an operation does what it does unrecorded. -/
theorem perform_simulates (host : Host σ) (depth : Nat) (op : Op σ) :
    Act.Simulates (Coupled Inv) (Recorded.perform host depth op)
      (Session.perform host depth op) := by
  induction depth generalizing op with
  | zero => exact .throw _
  | succ depth ih => exact h.performWith_simulates (h.call_simulates ih) op

/-- **What every step keeps holds after every run**, and recording changes nothing of a run. -/
theorem run (hnew : ∀ memory, Inv ⟨.new memory, []⟩) (host : Host σ) (depth : Nat) (memory : σ)
    (code : Session σ → Code σ) :
    (Recorded.run host depth memory code).1 =
        (((code (.new memory)).run (Session.perform host depth)).runIn (.new memory)).1 ∧
      (Recorded.run host depth memory code).2.session =
        (((code (.new memory)).run (Session.perform host depth)).runIn (.new memory)).2 ∧
      Inv (Recorded.run host depth memory code).2 := by
  have hstart : Coupled Inv ⟨.new memory, []⟩ (.new memory) :=
    ⟨rfl, fun i m hm => absurd hm (by simp [new]), hnew memory⟩
  obtain ⟨hresult, hcoupled⟩ :=
    h.call_simulates (h.perform_simulates host depth) code _ _ hstart
  exact ⟨hresult, hcoupled.same, hcoupled.inv⟩

end Steady

end AssistantUI.Session
