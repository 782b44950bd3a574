import AssistantUI.Proofs.Session.Course
import AssistantUI.Proofs.Session.Diagnostics

/-!
# One event, whatever host code does

A user sets off an event, and code of the host runs in the middle of it: listeners of the state that
merge again, mount something else or fail, and whoever is told of the event. Two statements say what
can be relied on in spite of that.

The first is about a handler whose listeners do not fail (`handled_in_order`): it suppresses the
default action before anything else, then all updates are merged at once, and then the host is told
once, of a state in which everything is found that the listeners have merged themselves. The second
is about invoking a key (`invoke_contained`): it never fails, however its handler ends, and what was
done up to then stays done.
-/

namespace AssistantUI

/-! ## What an event writes and tells -/

namespace EventDescriptor

theorem suppresses_iff (d : EventDescriptor) : d.suppresses = true ↔
    d.action = some submitAction ∨ d.action = some preventDefaultAction := by
  simp [suppresses]

/-- An event writes all its updates, each under its key, with what they refer to filled in. -/
theorem entries_changes (d : EventDescriptor) (t : Trigger) : (d.changes t).entries =
    (d.updates.getD ∅).entries.map fun e => (.text e.1, e.2.resolve t) := by
  rw [changes, State.ofTexts, Dict.entries_mapKeys, Dict.entries_map, List.map_map]
  rfl

/-- The host is told the data of an event, with the state in place of what has its name there. -/
theorem get?_payload (d : EventDescriptor) (values : State) (name : String) :
    (d.payload values).get? (.text name) =
      if name = "state" then some (.state values)
      else ((d.data.getD ∅).get? name).map Told.value := by
  rw [payload, Dict.get?_insert, State.payload, Dict.get?_map, State.get?_ofTexts,
    Key.text_beq_text]
  by_cases hname : name = "state" <;> simp [hname]

end EventDescriptor

theorem Handler.suppresses_iff (h : Handler) : h.suppresses = true ↔
    h = .formSubmit ∨ ∃ d, h = .described d ∧
      (d.action = some submitAction ∨ d.action = some preventDefaultAction) := by
  cases h with
  | described d => simp [suppresses, d.suppresses_iff]
  | fieldChange name => simp [suppresses]
  | formSubmit => simp [suppresses]

/-- An issue that is noted every time is noted behind the others. -/
theorem Mount.diagnostics_report (m : Mount) {i : Issue} (h : i.onceId? = none) :
    (m.report i).reporter.diagnostics = m.reporter.diagnostics ++ [m.noteOf i] := by
  rw [report, Reporter.add_of_new (by simp [h])]
  rfl

namespace Session

variable {σ : Type} {host : Host σ} {depth i : Nat} {channel : Option (Channel σ)} {s : Session σ}
  {m : Mount} {handler : Handler} {t : Trigger}

/-! ## What is known at each call -/

theorem Recorded.written_onward (r : Recorded σ) (i : Nat) (changes : State) :
    Onward r (if changes.isEmpty then [] else [.merging i changes]) (r.written i changes) := by
  unfold written
  split
  · exact .refl r
  · exact .write r i changes

/--
What host code finds when a handler of a mount calls it: the triggers that are being handled, the
changes merged before anything else, and a state with all written over it that was merged by then.
-/
structure Recorded.Finds (i : Nat) (m : Mount) (running : List Trigger) (changes : State)
    (r : Recorded σ) : Prop where
  running : r.session.running = running
  first : (if changes.isEmpty then [] else [.merging i changes]) <+: r.journal
  state : ∃ m' : Mount, r.session.mounts[i]? = some m' ∧ m.Holds (mergedInto i r.journal) m'

namespace Handled

variable {heard told : List (Call σ)} {result : Except Fault Unit} {last : Recorded σ}

/-- From the beginning on all goes on. -/
theorem onward (h : Handled host depth i channel handler t m ⟨s, []⟩ heard told result last) :
    Onward ⟨s, []⟩ last.journal last := by
  obtain ⟨⟨lines, hlines⟩, -⟩ := h.course.onward
  have hlast := (Recorded.written_onward ⟨s, []⟩ i (handler.changes t)).trans hlines
  rw [hlast.journal_eq]
  exact hlast

theorem finds (h : Handled host depth i channel handler t m ⟨s, []⟩ heard told result last)
    (hm : s.mounts[i]? = some m) :
    ∀ c ∈ heard ++ told, c.before.Finds i m s.running (handler.changes t) := by
  intro c hc
  obtain ⟨lines, hlines⟩ := h.course.onward.2 c hc
  have hbefore := (Recorded.written_onward ⟨s, []⟩ i (handler.changes t)).trans hlines
  obtain ⟨m', hm', hevolves⟩ := hbefore.mounts i m hm
  rw [← hbefore.journal_eq] at hevolves
  refine ⟨hbefore.running, ?_, m', hm', hevolves.holds⟩
  rw [hbefore.journal_eq]
  exact List.prefix_append _ _

/-- After a round without failures there is one telling, given something to tell and a channel. -/
theorem length_told {r : Recorded σ}
    (h : Handled host depth i channel handler t m r heard told result last)
    (hheard : ∀ c ∈ heard, c.result = .ok ()) :
    told.length = if handler.tells.isSome && channel.isSome then 1 else 0 := by
  -- nobody is told twice, so it is enough to know when somebody is
  have htells : 0 < told.length ↔ handler.tells.isSome ∧ channel.isSome := by
    rw [List.length_pos_iff, h.tells, and_iff_right hheard]
  split
  · next hboth => exact Nat.le_antisymm h.once (htells.mpr (Bool.and_eq_true_iff.mp hboth))
  · next hnot =>
    exact Nat.eq_zero_of_not_pos fun hpos => hnot (Bool.and_eq_true_iff.mpr (htells.mp hpos))

end Handled

/-! ## Listeners that do not fail -/

/-- If no listener ever fails, merging does not. -/
theorem mergeState_ok (hm : s.mounts[i]? = some m) {changes : State}
    (hquiet : ∀ number, .host number ∈ m.store.listeners → ∀ s',
      ((callIn host depth (host.onChange i number changes)).runIn s').1 = .ok ()) :
    ((mergeState host (callIn host depth) i changes).runIn s).1 = .ok () := by
  obtain ⟨heard, result, last, hcourse, hmerge, hhears, -⟩ :=
    merge_course host depth (none : Option (Channel σ)) (r := ⟨s, []⟩) hm changes
  rw [hmerge]
  refine hcourse.result_eq_ok.mpr fun c hc => ?_
  -- it is called for a listener that was registered, and does what this one does
  have hcause : c.cause ∈ round m.store.listeners changes :=
    hhears.subset (List.mem_map_of_mem hc)
  unfold round at hcause
  split at hcause
  · cases hcause
  · obtain ⟨number, hnumber, hchanged⟩ := List.mem_map.mp hcause
    obtain ⟨listener, hlistener, hhost⟩ := List.mem_filterMap.mp hnumber
    obtain rfl : .host number = listener := by
      cases listener with
      | rerender => cases hhost
      | host n => exact congrArg Listener.host (Option.some.inj hhost).symm
    have hcarried := hcourse.carried c hc
    rw [← hchanged] at hcarried
    exact (congrArg Prod.fst hcarried).symm.trans (hquiet number hlistener _)

/--
**An event suppresses, then merges, then tells**, if no listener fails at its merge. The trigger is
marked if the action asks for it, and every code that runs from then on finds it so. The updates, if
there are any, are merged at once, with what they refer to filled in, and every listener that was
registered by then hears of them. Then, if the event has a name and there is a channel, it is told
once, with the data and with the state at that moment. Whatever the listeners merged themselves is
in it, as long as none of them takes the mount down.
-/
theorem handled_in_order (host : Host σ) (depth : Nat) (channel : Option (Channel σ))
    (hm : s.mounts[i]? = some m) (d : EventDescriptor) (t : Trigger)
    (hquiet : ((mergeState host (callIn host depth) i (d.changes t)).runIn
      (s.during { t with prevented := t.prevented || d.suppresses })).1 = .ok ()) :
    let t' := { t with prevented := t.prevented || d.suppresses }
    let filled : UpdateValue → Json
      | .const j => j
      | .field .value => t.value
      | .field .checked => (t.checked.map Json.bool).getD .null
    (d.suppresses = true ↔ d.action = some "submit" ∨ d.action = some "preventDefault") ∧
    ((d.changes t).entries = (d.updates.getD ∅).entries.map fun e => (.text e.1, filled e.2)) ∧
    (∀ values name, (d.payload values).get? (.text name) =
      if name = "state" then some (.state values)
      else ((d.data.getD ∅).get? name).map Told.value) ∧
    ∃ heard told result last,
      ((Handler.described d).run (compiled host depth i channel) t).runIn (s.during t) =
        (result, last.session) ∧
      Course host depth i channel (Recorded.written ⟨s.during t', []⟩ i (d.changes t))
        (heard ++ told) result last ∧
      heard.map Call.cause = round m.store.listeners (d.changes t) ∧
      (∀ c ∈ heard, c.result = .ok ()) ∧
      told.length = (if d.emits.isSome && channel.isSome then 1 else 0) ∧
      (∀ c ∈ told, ∃ name m', d.emits = some name ∧ c.before.session.mounts[i]? = some m' ∧
        c.cause = .told name (d.payload m'.store.values)) ∧
      (∀ c ∈ heard ++ told, c.before.Finds i m (t' :: s.running) (d.changes t)) ∧
      ∀ s', .seeing s' ∈ last.journal → t' :: s.running <:+ s'.running := by
  intro t' filled
  have hfilled : UpdateValue.resolve t = filled := by
    funext v
    rcases v with j | ref
    · rfl
    cases ref with
    | value => rfl
    | checked => cases hchecked : t.checked <;> simp [UpdateValue.resolve, filled, hchecked]
  refine ⟨d.suppresses_iff, hfilled ▸ d.entries_changes t, d.get?_payload, ?_⟩
  have hduring : (s.during t').mounts[i]? = some m := hm
  obtain ⟨heard, told, result, last, hhandled, hgoOn⟩ :=
    handled_goOn host depth channel (r := ⟨s.during t', []⟩) hduring (.described d) t
  have hheard := hhandled.merges.mp hquiet
  have hfinds := hhandled.finds hduring
  refine ⟨heard, told, result, last, ?_, hhandled.course, hhandled.hearsAll hheard, hheard, ?_, ?_,
    hfinds, hhandled.onward.seen⟩
  · rw [runIn_run (compiled host depth i channel) rfl]
    exact hgoOn
  · have hlength := hhandled.length_told hheard
    have hemits : (Handler.described d).tells.isSome = d.emits.isSome := Option.isSome_map
    rw [hemits] at hlength
    exact hlength
  · intro c hc
    obtain ⟨name, payload, htells, hcause⟩ := hhandled.told c hc
    obtain ⟨m', hm', -⟩ := (hfinds c (List.mem_append_right _ hc)).state
    obtain ⟨event, hemits, hevent⟩ := Option.map_eq_some_iff.mp htells
    obtain ⟨rfl, rfl⟩ := Prod.mk.inj hevent
    have hstore : store i c.before.session = m'.store := store_of_get hm'
    rw [hstore] at hcause
    exact ⟨event, m', hemits, hm', hcause⟩

/-! ### A host that joins in -/

/-- What a host was told. -/
abbrev Memory : Type := List (String × Payload)

/-- Keeps an event. -/
def keepEvent : Channel Memory := fun name payload s =>
  .ask (.remember (s.host ++ [(name, payload)])) fun _ _ => .done

/-- The host adds to every change of `x`, and possibly fails after that. -/
def joiningHost (fault? : Option Fault) : Host Memory where
  mountId _ := "m"
  onEvent := some fun _ => keepEvent
  onChange i _ changes _ :=
    if changes.contains (.text "x") then
      .ask (.merge i (.obj [("y", .int 2)])) fun _ _ => (fault?.map Script.raise).getD .done
    else .done

/-- Submits what a field holds, under an empty name, along with data that has a state of its own. -/
def savingEvent : EventDescriptor where
  action := some submitAction
  updates := some (Dict.ofList [("x", .field .value)])
  emits := some ""
  data := some (Dict.ofList [("state", .str "mine"), ("tag", .int 1)])

/-- A button with the event is mounted, and the host listens to its state. -/
def joinedSession : Session Memory :=
  let button : Node := ⟨"button", ∅, .empty, Dict.ofList [("onClick", savingEvent)], ∅⟩
  ((new []).start (Mount.start "m" (some (.tree button)) [])).update 0 fun m =>
    { m with store := m.store.subscribe (.host 7) }

/-- The host is told of a state that has what it added itself, in place of the data of that name. -/
theorem handled_in_order_savingEvent :
    let t : Trigger := { value := .str "a" }
    let host := joiningHost none
    let s := joinedSession.during { t with prevented := t.prevented || savingEvent.suppresses }
    ((mergeState host (callIn host 2) 0 (savingEvent.changes t)).runIn s).1 = .ok () ∧
    ∃ (heard told : List (Call Memory)) (result : Except Fault Unit) (last : Recorded Memory),
      ((Handler.described savingEvent).run (compiled host 2 0 (some keepEvent)) t).runIn
        (joinedSession.during t) = (result, last.session) ∧
      heard.map Call.cause = [.changed 7 (Dict.ofList [(.text "x", .str "a")])] ∧
      told.length = 1 ∧
      (∀ c ∈ heard ++ told, c.before.session.running = [{ t with prevented := true }]) ∧
      last.session.host = [("", Dict.ofList [
        (.text "state", .state (Dict.ofList [(.text "x", .str "a"), (.text "y", .int 2)])),
        (.text "tag", .value (.int 1))])] := by
  intro t host s
  obtain ⟨m, hm⟩ : ∃ m, joinedSession.mounts[0]? = some m := ⟨_, rfl⟩
  have hlisteners : m.store.listeners = [.rerender, .host 7] := by
    obtain rfl := Option.some.inj hm
    rfl
  have hquiet : ((mergeState host (callIn host 2) 0 (savingEvent.changes t)).runIn s).1 = .ok () :=
    mergeState_ok (s := s) (m := m) hm fun _ _ _ => rfl
  obtain ⟨-, -, -, heard, told, result, last, hrun, -, hhears, -, htold, -, hfinds, -⟩ :=
    handled_in_order host 2 (some keepEvent) hm savingEvent t hquiet
  rw [hlisteners] at hhears
  refine ⟨hquiet, heard, told, result, last, hrun, hhears, htold, fun c hc => (hfinds c hc).running,
    ?_⟩
  have hhost := congrArg (fun r => r.2.host) hrun
  exact hhost.symm.trans (by decide +kernel)

/-! ## Failing handlers -/

/-- What made a handler fail is noted in its mount. -/
def contain (i : Nat) (key : Key) (result : Except Fault Unit) (s : Session σ) : Session σ :=
  match result with
  | .ok _ => s
  | .error f => s.update i fun m => m.report (.handlerRaised key.display f)

theorem Onward.contain {r r' : Recorded σ} {lines : List (Moment σ)} (h : Onward r lines r')
    (i : Nat) (key : Key) (result : Except Fault Unit) :
    Onward r lines { r' with session := r'.session.contain i key result } := by
  cases result with
  | ok _ => exact h
  | error f =>
    have hreported := h.trans (.update r' i fun m =>
      m.evolves_report (.handlerRaised key.display f))
    rw [List.append_nil] at hreported
    exact hreported

/-- There is one note of a failure, and none if there is no failure. -/
theorem contain_noted (key : Key) (result : Except Fault Unit) (hm : s.mounts[i]? = some m) :
    ∃ m' own, (s.contain i key result).mounts[i]? = some m' ∧
      m'.reporter.diagnostics = m.reporter.diagnostics ++ own ∧
      own.map Diagnostic.code = if result = .ok () then [] else [.str "event.handler"] := by
  cases result with
  | ok _ => exact ⟨m, [], hm, (List.append_nil _).symm, rfl⟩
  | error f =>
    exact ⟨_, _, get?_update_self hm _, m.diagnostics_report rfl, (if_neg nofun).symm⟩

/-- A key without a callback is answered by nothing, and noted. -/
theorem invoke_unknown (host : Host σ) (depth : Nat) (hm : s.mounts[i]? = some m) {key : Key}
    (hcallback : m.callbacks.at? key = none) (t : Trigger) :
    (perform host (depth + 1) (.invoke i key t)).runIn s =
      (.ok (.ran none), s.update i fun k => k.report (.callbackUnknown key)) := by
  have hnone : ((s.mounts[i]?).bind fun m => m.callbacks.at? key) = none := by
    rw [hm]
    exact hcallback
  have hinvoke : invoke host (callIn host depth) i key t s =
      (none, s.update i fun k => k.report (.callbackUnknown key)) := by
    unfold invoke
    rw [hnone]
  exact congrArg (fun p => (Except.ok (Reply.ran p.1), p.2)) hinvoke

/-- A key with a callback is answered by the marked trigger, however the handler ends. -/
theorem invoke_known (host : Host σ) (depth : Nat) (hm : s.mounts[i]? = some m) {key : Key}
    {callback : Callback} (hcallback : m.callbacks.at? key = some callback) (t : Trigger) :
    ∃ heard told result last,
      Handled host depth i (some (mountChannel host i)) callback.handler t m
        ⟨s.during (callback.handler.mark t), []⟩ heard told result last ∧
      (callback.handler.run (surroundings host (callIn host depth) i) t).runIn (s.during t) =
        (result, last.session) ∧
      (perform host (depth + 1) (.invoke i key t)).runIn s =
        (.ok (.ran (some (callback.handler.mark t))),
          contain i key result { last.session with running := s.running }) := by
  have hduring : (s.during (callback.handler.mark t)).mounts[i]? = some m := hm
  obtain ⟨heard, told, result, last, hhandled, hgoOn⟩ :=
    handled_goOn host depth (some (mountChannel host i))
      (r := ⟨s.during (callback.handler.mark t), []⟩) hduring callback.handler t
  have hcompiled : (callback.handler.goOn (surroundings host (callIn host depth) i) t).runIn
      (s.during (callback.handler.mark t)) = (result, last.session) := by
    rw [surroundings_eq]
    exact hgoOn
  refine ⟨heard, told, result, last, hhandled, ?_, ?_⟩
  · rw [runIn_run _ rfl]
    exact hcompiled
  have hrunning : last.session.running = callback.handler.mark t :: s.running :=
    hhandled.onward.running
  have hfound : ((s.mounts[i]?).bind fun m => m.callbacks.at? key) = some callback := by
    rw [hm]
    exact hcallback
  have hrun : runHandler host (callIn host depth) i callback.handler t s =
      (result, callback.handler.mark t, { last.session with running := s.running }) := by
    rw [runHandler_eq, hcompiled]
    dsimp only
    rw [hrunning]
    rfl
  have hinvoke : invoke host (callIn host depth) i key t s =
      (some (callback.handler.mark t),
        contain i key result { last.session with running := s.running }) := by
    unfold invoke
    rw [hfound]
    dsimp only
    rw [hrun]
    cases result <;> rfl
  exact congrArg (fun p => (Except.ok (Reply.ran p.1), p.2)) hinvoke

/--
**Invoking a key never fails**, whatever the listeners and the host do and however deeply they call
back. A key that is not there is answered by nothing, and noted. Any other is answered by its
trigger, which is marked if the handler suppresses the default action, even if it fails later. A
failure is that of the last call that the handler made, and leaves all as that call left it: it is
noted once, the merges stay, and nobody is told unless all listeners were called.
-/
theorem invoke_contained (host : Host σ) (depth : Nat) (hm : s.mounts[i]? = some m) (key : Key)
    (t : Trigger) :
    let p := (perform host (depth + 1) (.invoke i key t)).runIn s
    match m.callbacks.at? key with
    | none =>
      p = (.ok (.ran none), s.update i fun k => k.report (.callbackUnknown key)) ∧
      ∃ m' note, p.2.mounts[i]? = some m' ∧
        m'.reporter.diagnostics = m.reporter.diagnostics ++ [note] ∧
        note.code = .str "event.unknown_callback"
    | some callback =>
      let t' := { t with prevented := t.prevented || callback.handler.suppresses }
      (callback.handler.suppresses = true ↔ callback.handler = .formSubmit ∨
        ∃ d, callback.handler = .described d ∧
          (d.action = some "submit" ∨ d.action = some "preventDefault")) ∧
      ∃ heard told result last,
        Handled host depth i (some (mountChannel host i)) callback.handler t m
          ⟨s.during t', []⟩ heard told result last ∧
        (callback.handler.run (surroundings host (callIn host depth) i) t).runIn (s.during t) =
          (result, last.session) ∧
        p = (.ok (.ran (some t')),
          contain i key result { last.session with running := s.running }) ∧
        (∃ k k' own, last.session.mounts[i]? = some k ∧ p.2.mounts[i]? = some k' ∧
          k'.reporter.diagnostics = k.reporter.diagnostics ++ own ∧
          own.map Diagnostic.code = if result = .ok () then [] else [.str "event.handler"]) ∧
        (result = .ok () ↔ ∀ c ∈ heard ++ told, c.result = .ok ()) ∧
        (∀ f, result = .error f →
          ∃ c, (heard ++ told).getLast? = some c ∧ c.result = .error f ∧ c.after = last) ∧
        ((∃ c ∈ heard, c.result ≠ .ok ()) → told = []) ∧
        ∀ (j : Nat) (k : Mount), s.mounts[j]? = some k →
          ∃ k', p.2.mounts[j]? = some k' ∧ k.Evolves (mergedInto j last.journal) k' := by
  intro p
  cases hcallback : m.callbacks.at? key with
  | none =>
    have hp : p = (.ok (.ran none), s.update i fun k => k.report (.callbackUnknown key)) :=
      invoke_unknown host depth hm hcallback t
    refine ⟨hp, m.report (.callbackUnknown key), _, ?_, m.diagnostics_report rfl, rfl⟩
    rw [hp]
    exact get?_update_self hm _
  | some callback =>
    obtain ⟨heard, told, result, last, hhandled, hrun, hp⟩ :=
      invoke_known host depth hm hcallback t
    replace hp : p = _ := hp
    have honward := (hhandled.onward.of_during (r := ⟨s, []⟩)).contain i key result
    have htail : last.session.running.tail = s.running := by rw [hhandled.onward.running]; rfl
    rw [htail] at honward
    refine ⟨callback.handler.suppresses_iff, heard, told, result, last, hhandled, hrun, hp, ?_,
      hhandled.course.result_eq_ok, ?_, ?_, ?_⟩
    · obtain ⟨k, hk, -⟩ := hhandled.onward.mounts i m hm
      obtain ⟨k', own, hk', hown⟩ := contain_noted key result
        (s := { last.session with running := s.running }) hk
      exact ⟨k, k', own, hk, by rw [hp]; exact hk', hown⟩
    · rintro f rfl
      exact hhandled.course.of_error
    · -- telling comes after the whole round of listeners
      rintro ⟨c, hc, hfailed⟩
      exact Classical.not_not.mp fun htold => hfailed ((hhandled.tells.mp htold).1 c hc)
    · rw [hp]
      exact honward.mounts

/-- The listener fails after it has merged: all values stay, and the host is not told. -/
theorem invoke_contained_savingEvent :
    let host := joiningHost (some (.failure "boom"))
    let t : Trigger := { value := .str "a" }
    let p := (perform host 3 (.invoke 0 (.text "onClick") t)).runIn joinedSession
    p.1 = .ok (.ran (some { t with prevented := true })) ∧
    ∃ m m' : Mount, joinedSession.mounts[0]? = some m ∧ p.2.mounts[0]? = some m' ∧
      m.reporter.diagnostics = [] ∧
      m'.reporter.diagnostics.map Diagnostic.code = [.str "event.handler"] ∧
      m'.store.values = Dict.ofList [(.text "x", .str "a"), (.text "y", .int 2)] ∧
      p.2.host = [] := by
  intro host t p
  obtain ⟨m, hm⟩ : ∃ m, joinedSession.mounts[0]? = some m := ⟨_, rfl⟩
  obtain ⟨callback, hcallback, hhandler⟩ : ∃ callback,
      m.callbacks.at? (.text "onClick") = some callback ∧
      callback.handler = .described savingEvent := by
    obtain rfl := Option.some.inj hm
    exact ⟨_, rfl, rfl⟩
  have hinvoke := invoke_contained host 2 hm (.text "onClick") t
  rw [hcallback] at hinvoke
  obtain ⟨-, heard, told, result, last, -, -, hp, -, -, -, -, hmounts⟩ := hinvoke
  rw [hhandler] at hp
  obtain ⟨m', hm', -⟩ := hmounts 0 m hm
  refine ⟨congrArg Prod.fst hp, m, m', hm, hm', ?_⟩
  obtain rfl := Option.some.inj hm
  obtain rfl := Option.some.inj hm'
  exact ⟨rfl, by decide +kernel, by decide +kernel, by decide +kernel⟩

end Session

end AssistantUI
