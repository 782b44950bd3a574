import AssistantUI.Build.Tree
import AssistantUI.Proofs.Dict
import AssistantUI.Proofs.Session.Invariant

/-!
# A user at work

What a user does at a mounted definition is a sequence of events, each under the key of a
callback. As long as nobody but the mount listens to its state, all there is to know of the mount
between two events is the definition and the values of the state (`Mount.Live`), and what the next
event does follows from its handler. Three kinds of handlers are told apart here by what running
one comes to: those that write the content of a field under a name, those that only suppress the
default action, and those that submit the state.

A sequence of the first kind leaves the mount live in the state in which all values were written
in order, and nothing else in the session is changed (`interact_changes`).
-/

namespace AssistantUI

/-- No trigger comes with its default action suppressed. -/
theorem Trigger.prevented_ofJson (raw : Json) : (ofJson raw).prevented = false := by
  unfold ofJson
  split
  · split
    · rfl
    · rfl
  · rfl

/-! ## What handlers come to -/

namespace Handler

/-- All that the handler does is to write the content of a field under a name. -/
def Writes (name : String) (h : Handler) : Prop :=
  ∀ {ω : Type} (s : Surroundings (Act ω)) (t : Trigger),
    h.run s t = s.merge (Dict.ofList [(.text name, t.value)])

/-- All that the handler does is to suppress the default action. -/
def Prevents (h : Handler) : Prop :=
  ∀ {ω : Type} (s : Surroundings (Act ω)) (t : Trigger), h.run s t = s.prevent

/-- The handler suppresses the default action, and submits what it makes of the state. -/
def Submits (payload : State → Payload) (h : Handler) : Prop :=
  ∀ {ω : Type} (s : Surroundings (Act ω)) (t : Trigger) (emit : String → Payload → Act ω Unit),
    s.emit = some emit →
    h.run s t = do
      s.prevent
      emit "submit" (payload (← s.snapshot))

theorem writes_fieldChange (name : String) : (fieldChange name).Writes name := fun _ _ => rfl

theorem writes_changeEvent (name : String) : (described (Build.changeEvent name)).Writes name := by
  intro ω s t
  have hrun : (described (Build.changeEvent name)).run s t =
      (do s.merge (Dict.ofList [(.text name, t.value)]); pure ()) := rfl
  rw [hrun, bind_pure_unit]

theorem prevents_formEvent : (described Build.formEvent).Prevents := by
  intro ω s t
  have hrun : (described Build.formEvent).run s t = (do s.prevent; pure ()) := rfl
  rw [hrun, bind_pure_unit]

theorem submits_submitEvent :
    (described Build.submitEvent).Submits fun state =>
      Dict.ofList [(.text "state", .state state)] := by
  intro ω s t emit hemit
  unfold run
  rw [hemit]
  rfl

theorem submits_formSubmit : formSubmit.Submits State.payload := by
  intro ω s t emit hemit
  unfold run
  rw [hemit]

end Handler

/-! ## What is left of values that were written -/

namespace State

theorem ofTexts_ofList (l : List (String × Json)) :
    ofTexts (Dict.ofList l) = Dict.ofList (l.map fun e => (.text e.1, e.2)) :=
  Dict.mapKeys_insertList Key.text_beq_text _ Dict.empty l

/-- The state in which values were written under names, one after another. -/
def written (l : List (String × Json)) : State := ofTexts (Dict.ofList l)

/-- The names that were written to, in the order of the first times, with what came last. -/
def lastWritten (l : List (String × Json)) : List (String × Json) :=
  (l.map Prod.fst).eraseDups.map fun name => (name, (Dict.find name l.reverse).getD .null)

theorem entries_ofList (l : List (String × Json)) : (Dict.ofList l).entries = lastWritten l := by
  have hentries := Dict.entries_eq_map (Dict.ofList l) Json.null
  rw [Dict.keys_ofList] at hentries
  simp only [Dict.get?_ofList] at hentries
  exact hentries

theorem entries_written (l : List (String × Json)) :
    (written l).entries = (lastWritten l).map fun e => (.text e.1, e.2) := by
  rw [written, ofTexts, Dict.entries_mapKeys, entries_ofList]

/-- The host is told the state as the object with the same members. -/
theorem toJson_written (l : List (String × Json)) :
    (written l).toJson = .obj (lastWritten l) := by
  rw [written, toJson_ofTexts, Json.ofDict, entries_ofList]

theorem value_written (l : List (String × Json)) (name : String) :
    (written l).value name = (Dict.find name l.reverse).getD .null := by
  rw [value, written, get?_ofTexts, Dict.get?_ofList]

theorem insertList_written (l : List (String × Json)) :
    (∅ : State).insertList (l.map fun e => (.text e.1, e.2)) = written l := by
  rw [written, ofTexts_ofList]
  rfl

end State

/-! ## Live mounts -/

/-- The mount shows a definition in a state with the given values, and nobody else listens. -/
structure Mount.Live (d : Definition) (values : State) (m : Mount) : Prop where
  mounted : m.mounted = true
  definition : m.definition = some d
  store : m.store = ⟨values, [.rerender]⟩
  view : m.view = Definition.render? values (some d)
  callbacks : m.callbacks = Definition.callbacks? values (some d)

namespace Mount

theorem live_start (id : String) (d : Definition) (issues : List Issue) :
    (start id (some d) issues).Live d ∅ := ⟨rfl, rfl, rfl, rfl, rfl⟩

variable {m : Mount} {d : Definition} {values : State}

theorem Live.merge (h : m.Live d values) (changes : State) :
    (m.merge changes).Live d (values.update changes) := by
  have hvalues : (m.write changes).store = ⟨values.update changes, [.rerender]⟩ := by
    rw [write, h.store]
    rfl
  rw [merge_of_mounted h.mounted]
  refine ⟨h.mounted, h.definition, hvalues, ?_, ?_⟩
  · show Definition.render? (m.write changes).store.values m.definition = _
    rw [hvalues, h.definition]
  · show Definition.callbacks? (m.write changes).store.values m.definition = _
    rw [hvalues, h.definition]

/-- The first listener of a live mount is its last. -/
theorem Live.listeners (h : m.Live d values) :
    m.store.listeners = (if m.mounted then [.rerender] else []) ++ [] := by
  rw [h.store, h.mounted]
  rfl

end Mount

/-- In any state, the callback of the definition under a key has a handler with the property. -/
def Definition.Handles (d : Definition) (key : String) (P : Handler → Prop) : Prop :=
  ∀ values, ∃ callback, (Definition.callbacks? values (some d)).get? key = some callback ∧
    P callback.handler

namespace Session

variable {σ : Type}

/-- Putting the mount that is there in its place changes nothing. -/
theorem update_self {s : Session σ} {i : Nat} {m : Mount} (hm : s.mounts[i]? = some m) :
    (s.update i fun _ => m) = s := by
  have hsame : (s.update i fun _ => m) = s.update i id :=
    update_congr fun k hk => Option.some.inj (hm.symm.trans hk)
  rw [hsame, update, List.modify_id]

/-- Whatever is read as a definition is mounted, whatever was mounted before. -/
theorem mount_of_parse (host : Host σ) (s : Session σ) {j : Json} {d : Definition}
    {issues : List Issue} (h : Definition.parse j = .ok (some d, issues)) :
    ∃ s₁ m, mount host (.json j) s = (.ok (some s.mounts.length), s₁) ∧
      s₁.mounts[s.mounts.length]? = some m ∧ m.Live d ∅ ∧
      s₁.current = some s.mounts.length ∧ s₁.host = s.host := by
  have hnull : (Mountable.json j).isNull = false := by
    cases j with
    | null => cases h
    | _ => rfl
  have hlength : s.unmount.mounts.length = s.mounts.length := length_unmount s
  have hmount : mount host (.json j) s =
      (.ok (some s.mounts.length),
        s.unmount.start (Mount.start (host.mountId s.mounts.length) (some d) issues)) :=
    mount_of_ok host s hnull h
  refine ⟨_, Mount.start (host.mountId s.mounts.length) (some d) issues, hmount, ?_,
    Mount.live_start _ d issues, ?_, host_unmount s⟩
  · rw [start, ← hlength, List.getElem?_concat_length]
  · rw [start, hlength]

/-! ## One event -/

/-- The session while the handler of a trigger runs. -/
def during (s : Session σ) (t : Trigger) : Session σ := { s with running := t :: s.running }

section

variable {host : Host σ} {call : (Session σ → Code σ) → Act (Session σ) Unit} {s : Session σ}
  {i : Nat} {m : Mount} {d : Definition} {values : State} {key : String}

theorem runIn_mergeState (hm : s.mounts[i]? = some m) (hlive : m.Live d values) {changes : State}
    (hchanges : changes.isEmpty = false) :
    (mergeState host call i changes).runIn s = (.ok (), s.update i (Mount.merge changes)) := by
  have hstore : store i s = m.store := store_of_get hm
  show (if changes.isEmpty then _ else _) = _
  rw [hchanges, if_neg Bool.false_ne_true, hstore]
  exact runIn_notify_written hm hlive.listeners

/-- Invoking a key runs the handler of the callback under it. -/
theorem invoke_of_runIn (hm : s.mounts[i]? = some m) {callback : Callback}
    (hcallback : m.callbacks.get? key = some callback) {t t' : Trigger} {s' : Session σ}
    (hrun : (callback.handler.run (surroundings host call i) t).runIn (s.during t) =
      (.ok (), s'.during t')) :
    invoke host call i (.text key) t s = (some t', s') := by
  have hfound : ((s.mounts[i]?).bind fun m => m.callbacks.at? (.text key)) = some callback := by
    rw [hm]
    exact hcallback
  have hhandler : runHandler host call i callback.handler t s = (.ok (), t', s') := by
    unfold runHandler
    rw [show ({ s with running := t :: s.running } : Session σ) = s.during t from rfl, hrun]
    rfl
  unfold invoke
  rw [hfound]
  dsimp only
  rw [hhandler]

variable (hm : s.mounts[i]? = some m) (hlive : m.Live d values)
include hm hlive

theorem invoke_writes {name : String} (h : d.Handles key (Handler.Writes name)) (t : Trigger) :
    invoke host call i (.text key) t s =
      (some t, s.update i (Mount.merge (Dict.ofList [(.text name, t.value)]))) := by
  obtain ⟨callback, hcallback, hwrites⟩ := h values
  rw [← hlive.callbacks] at hcallback
  refine invoke_of_runIn hm hcallback ?_
  have hduring : (s.during t).mounts[i]? = some m := hm
  have hchanges : (Dict.ofList [(Key.text name, t.value)]).isEmpty = false := rfl
  rw [hwrites]
  exact runIn_mergeState hduring hlive hchanges

theorem invoke_prevents (h : d.Handles key Handler.Prevents) (t : Trigger) :
    invoke host call i (.text key) t s = (some { t with prevented := true }, s) := by
  obtain ⟨callback, hcallback, hprevents⟩ := h values
  rw [← hlive.callbacks] at hcallback
  refine invoke_of_runIn hm hcallback ?_
  rw [hprevents]
  rfl

/-- Submitting ends in what the host does when it is told. -/
theorem invoke_submits {payload : State → Payload}
    (h : d.Handles key (Handler.Submits payload)) (t : Trigger)
    {onEvent : Nat → String → Payload → Session σ → Code σ} (honEvent : host.onEvent = some onEvent)
    {s' : Session σ}
    (htold : (call (onEvent i "submit" (payload values))).runIn
      (s.during { t with prevented := true }) = (.ok (), s'.during { t with prevented := true })) :
    invoke host call i (.text key) t s = (some { t with prevented := true }, s') := by
  obtain ⟨callback, hcallback, hsubmits⟩ := h values
  rw [← hlive.callbacks] at hcallback
  refine invoke_of_runIn hm hcallback ?_
  let s₁ := s.during { t with prevented := true }
  have hm₁ : s₁.mounts[i]? = some m := hm
  have hsnapshot : ((surroundings host call i).snapshot).runIn s₁ = (.ok values, s₁) := by
    show (Except.ok (store i s₁).values, s₁) = _
    rw [store_of_get hm₁, hlive.store]
  have hemit : (emit host call i "submit" (payload values)).runIn s₁ =
      (call (onEvent i "submit" (payload values))).runIn s₁ := by
    unfold emit Act.runIn
    dsimp only
    rw [honEvent, hm₁]
    dsimp only
    rw [if_pos hlive.mounted]
  have hprevent : ((surroundings host call i).prevent).runIn (s.during t) = (.ok (), s₁) := rfl
  rw [hsubmits _ t (emit host call i) rfl, Act.runIn_bind, hprevent]
  dsimp only
  rw [Act.runIn_bind, hsnapshot]
  exact hemit.trans htold

end

/-! ## Events one after another -/

/-- Events under keys, one after another: what each was answered, and what the session comes to. -/
def interact (host : Host σ) (depth i : Nat) :
    List (String × Json) → Session σ → List (Option Trigger) × Session σ
  | [], s => ([], s)
  | (key, raw) :: rest, s =>
    let (t, s') := invoke host (fun code s => (code s).run (perform host depth) s) i (.text key)
      (.ofJson raw) s
    let (ts, s'') := interact host depth i rest s'
    (t :: ts, s'')

theorem interact_append (host : Host σ) (depth i : Nat) (es fs : List (String × Json))
    (s : Session σ) :
    interact host depth i (es ++ fs) s =
      ((interact host depth i es s).1 ++
          (interact host depth i fs (interact host depth i es s).2).1,
        (interact host depth i fs (interact host depth i es s).2).2) := by
  induction es generalizing s with
  | nil => rfl
  | cons e rest ih =>
    obtain ⟨key, raw⟩ := e
    rw [List.cons_append, interact, interact]
    dsimp only
    rw [ih]
    rfl

section

variable (host : Host σ) (depth : Nat) {s : Session σ} {i : Nat} {m : Mount} {d : Definition}
  {values : State} {key : String} (hm : s.mounts[i]? = some m) (hlive : m.Live d values)
include hm hlive

theorem interact_prevents (h : d.Handles key Handler.Prevents) (raw : Json) :
    interact host depth i [(key, raw)] s =
      ([some { Trigger.ofJson raw with prevented := true }], s) := by
  have hinvoke : invoke host (fun code s => (code s).run (perform host depth) s) i (.text key)
      (.ofJson raw) s = (some { Trigger.ofJson raw with prevented := true }, s) :=
    invoke_prevents hm hlive h (.ofJson raw)
  rw [interact, hinvoke]
  rfl

theorem interact_submits {payload : State → Payload}
    (h : d.Handles key (Handler.Submits payload)) (raw : Json)
    {onEvent : Nat → String → Payload → Session σ → Code σ} (honEvent : host.onEvent = some onEvent)
    {s' : Session σ} {t : Trigger} (ht : t = { Trigger.ofJson raw with prevented := true })
    (htold : ((onEvent i "submit" (payload values) (s.during t)).run (perform host depth)).runIn
      (s.during t) = (.ok (), s'.during t)) :
    interact host depth i [(key, raw)] s = ([some t], s') := by
  subst ht
  have hinvoke : invoke host (fun code s => (code s).run (perform host depth) s) i (.text key)
      (.ofJson raw) s = (some { Trigger.ofJson raw with prevented := true }, s') :=
    invoke_submits hm hlive h (.ofJson raw) honEvent htold
  rw [interact, hinvoke]
  rfl

end

/-- Changes leave the mount live with their values written, and all else as it was. -/
theorem runIn_changes (host : Host σ) (depth : Nat) {i : Nat} {d : Definition} {ι : Type}
    {key name : ι → String} (h : ∀ x, d.Handles (key x) (Handler.Writes (name x)))
    (changes : List (ι × Json)) {s : Session σ} {m : Mount} {values : State}
    (hm : s.mounts[i]? = some m) (hlive : m.Live d values) :
    ∃ m', m'.Live d (values.insertList
        (changes.map fun c => (.text (name c.1), (Trigger.ofJson c.2).value))) ∧
      interact host depth i (changes.map fun c => (key c.1, c.2)) s =
        (changes.map fun c => some (.ofJson c.2), s.update i fun _ => m') := by
  induction changes generalizing s m values with
  | nil => exact ⟨m, hlive, congrArg (Prod.mk []) (update_self hm).symm⟩
  | cons c rest ih =>
    let written : State := Dict.ofList [(.text (name c.1), (Trigger.ofJson c.2).value)]
    have hstep : invoke host (fun code s => (code s).run (perform host depth) s) i
        (.text (key c.1)) (.ofJson c.2) s =
        (some (.ofJson c.2), s.update i (Mount.merge written)) :=
      invoke_writes hm hlive (h c.1) (.ofJson c.2)
    -- the mount after this change is live again, and the rest goes on from there
    have hm' : (s.update i (Mount.merge written)).mounts[i]? = some (m.merge written) :=
      get?_update_self hm _
    obtain ⟨m', hlive', hrest⟩ := ih hm' (hlive.merge written)
    refine ⟨m', hlive', ?_⟩
    rw [List.map_cons, interact, hstep]
    dsimp only
    rw [hrest, update_update]
    rfl

/-- The same from the beginning, when nothing was written yet. -/
theorem interact_changes (host : Host σ) (depth : Nat) {i : Nat} {d : Definition} {ι : Type}
    {key name : ι → String} (h : ∀ x, d.Handles (key x) (Handler.Writes (name x)))
    (changes : List (ι × Json)) {s : Session σ} {m : Mount}
    (hm : s.mounts[i]? = some m) (hlive : m.Live d ∅) :
    ∃ m', m'.Live d (State.written
        (changes.map fun c => (name c.1, (Trigger.ofJson c.2).value))) ∧
      interact host depth i (changes.map fun c => (key c.1, c.2)) s =
        (changes.map fun c => some (.ofJson c.2), s.update i fun _ => m') := by
  obtain ⟨m', hlive', hinteract⟩ := runIn_changes host depth h changes hm hlive
  refine ⟨m', ?_, hinteract⟩
  rw [← State.insertList_written, List.map_map]
  exact hlive'

end Session

end AssistantUI
