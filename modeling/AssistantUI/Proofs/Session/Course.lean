import AssistantUI.Proofs.Session.Nesting

/-!
# The course of a handler

Running a handler calls host code at two points: each listener of the mount that hears of the
changes, and whoever is told of the event in the end. Each of these calls can do anything to the
session before the next one is made. A `Course` lists the calls that the handler itself makes, each
with what it found, how it ended and what it left; code that is called from inside of them is part
of what they leave, and only the journal shows it.

`handled_goOn` says of every handler which calls there are, for any code of the host and however it
ends. The channel by which the host is told need not be that of a mount.
-/

namespace AssistantUI

/-- The number of a listener of the host. -/
def Listener.number? : Listener → Option Nat
  | .rerender => none
  | .host number => some number

namespace Session

variable {σ : Type}

/-! ## Handlers with a channel -/

/-- What runs when an event is told of. -/
abbrev Channel (σ : Type) : Type := String → Payload → Session σ → Code σ

/-- Runs code of the host in the session as it is. -/
def callIn (host : Host σ) (depth : Nat) (code : Session σ → Code σ) : Act (Session σ) Unit :=
  fun s => (code s).run (perform host depth) s

/-- What a handler acts on that was made for the state of a mount, and a channel of any kind. -/
def compiled (host : Host σ) (depth i : Nat) (channel : Option (Channel σ)) :
    Surroundings (Act (Session σ)) :=
  { surroundings host (callIn host depth) i with
    emit := channel.map fun emit name payload => callIn host depth (emit name payload) }

/-- The channel of a mount: it leads to the host as long as the mount is not taken down. -/
def mountChannel (host : Host σ) (i : Nat) : Channel σ := fun name payload s =>
  match host.onEvent, s.mounts[i]? with
  | some onEvent, some m => if m.mounted then onEvent i name payload s else .done
  | _, _ => .done

/-- The handlers of a mount are those with its own channel. -/
theorem surroundings_eq (host : Host σ) (depth i : Nat) :
    surroundings host (callIn host depth) i =
      compiled host depth i (some (mountChannel host i)) := by
  have hemit : emit host (callIn host depth) i =
      fun name payload => callIn host depth (mountChannel host i name payload) := by
    funext name payload s
    unfold emit callIn mountChannel
    cases host.onEvent with
    | none => rfl
    | some onEvent =>
      cases s.mounts[i]? with
      | none => rfl
      | some m =>
        dsimp only
        cases m.mounted with
        | true => rfl
        | false => rfl
  unfold compiled
  rw [Option.map_some, ← hemit]
  rfl

/-! ## Calls -/

/-- Why code of the host is called. -/
inductive Cause where
  /-- A listener hears of changes. -/
  | changed (number : Nat) (changes : State)
  /-- The host is told of an event. -/
  | told (name : String) (payload : Payload)

/-- The code that is called. -/
def Cause.code (host : Host σ) (i : Nat) (channel : Option (Channel σ)) :
    Cause → Session σ → Code σ
  | changed number changes => host.onChange i number changes
  | told name payload =>
    match channel with
    | some emit => emit name payload
    | none => fun _ => .done

/-- A call of host code, with what it found and what it left. -/
structure Call (σ : Type) where
  cause : Cause
  before : Recorded σ
  result : Except Fault Unit
  after : Recorded σ

/--
Calls are made one after another, up to the first that fails, and each finds what the one before
has left. In between the mount may only render.
-/
inductive Course (host : Host σ) (depth i : Nat) (channel : Option (Channel σ)) :
    Recorded σ → List (Call σ) → Except Fault Unit → Recorded σ → Prop where
  | stop (r : Recorded σ) : Course host depth i channel r [] (.ok ()) r
  | rerender {r r' : Recorded σ} {calls : List (Call σ)} {result : Except Fault Unit} :
      Course host depth i channel { r with session := r.session.update i Mount.rerender } calls
        result r' → Course host depth i channel r calls result r'
  | call {r r₁ r' : Recorded σ} {calls : List (Call σ)} {result : Except Fault Unit}
      (cause : Cause) :
      (Recorded.call (Recorded.perform host depth) (cause.code host i channel)).runIn r =
        (.ok (), r₁) →
      Course host depth i channel r₁ calls result r' →
      Course host depth i channel r (⟨cause, r, .ok (), r₁⟩ :: calls) result r'
  | fail {r r' : Recorded σ} {f : Fault} (cause : Cause) :
      (Recorded.call (Recorded.perform host depth) (cause.code host i channel)).runIn r =
        (.error f, r') →
      Course host depth i channel r [⟨cause, r, .error f, r'⟩] (.error f) r'

variable {host : Host σ} {depth i : Nat} {channel : Option (Channel σ)}

theorem runIn_call {cause : Cause} {r r' : Recorded σ} {result : Except Fault Unit}
    (h : (Recorded.call (Recorded.perform host depth) (cause.code host i channel)).runIn r =
      (result, r')) :
    (callIn host depth (cause.code host i channel)).runIn r.session = (result, r'.session) ∧
      ∃ lines, Onward r lines r' := by
  obtain ⟨hresult, hsame, honward⟩ :=
    call_records (perform_records host depth) (cause.code host i channel) r
  rw [h] at hresult hsame honward
  exact ⟨Prod.ext hresult.symm hsame.symm, honward⟩

namespace Course

variable {r r' r'' : Recorded σ} {calls more : List (Call σ)} {result : Except Fault Unit}

theorem append (h : Course host depth i channel r calls (.ok ()) r')
    (h' : Course host depth i channel r' more result r'') :
    Course host depth i channel r (calls ++ more) result r'' := by
  generalize hok : (.ok () : Except Fault Unit) = ok at h
  induction h with
  | stop r => exact h'
  | rerender _ ih => exact .rerender (ih h' hok)
  | call cause hcall _ ih => exact .call cause hcall (ih h' hok)
  | fail => cases hok

/-- All that was there goes on, in the end and at every call. -/
theorem onward (h : Course host depth i channel r calls result r') :
    (∃ lines, Onward r lines r') ∧ ∀ c ∈ calls, ∃ lines, Onward r lines c.before := by
  induction h with
  | stop r => exact ⟨⟨[], .refl r⟩, List.forall_mem_nil _⟩
  | @rerender r r' calls result _ ih =>
    obtain ⟨⟨lines, hlines⟩, hcalls⟩ := ih
    have hrerender := Onward.update r i Mount.evolves_rerender
    refine ⟨⟨_, hrerender.trans hlines⟩, fun c hc => ?_⟩
    obtain ⟨more, hmore⟩ := hcalls c hc
    exact ⟨_, hrerender.trans hmore⟩
  | @call r r₁ r' calls result cause hcall _ ih =>
    obtain ⟨⟨lines, hlines⟩, hcalls⟩ := ih
    obtain ⟨-, first, hfirst⟩ := runIn_call hcall
    refine ⟨⟨_, hfirst.trans hlines⟩, fun c hc => ?_⟩
    rcases List.mem_cons.mp hc with rfl | hc
    · exact ⟨[], .refl r⟩
    · obtain ⟨more, hmore⟩ := hcalls c hc
      exact ⟨_, hfirst.trans hmore⟩
  | @fail r r' f cause hcall =>
    obtain ⟨-, honward⟩ := runIn_call hcall
    refine ⟨honward, fun c hc => ?_⟩
    rw [List.mem_singleton.mp hc]
    exact ⟨[], .refl r⟩

/-- Each call does what its code does. -/
theorem carried (h : Course host depth i channel r calls result r') : ∀ c ∈ calls,
    (callIn host depth (c.cause.code host i channel)).runIn c.before.session =
      (c.result, c.after.session) := by
  induction h with
  | stop r => exact List.forall_mem_nil _
  | rerender _ ih => exact ih
  | call cause hcall _ ih => exact List.forall_mem_cons.mpr ⟨(runIn_call hcall).1, ih⟩
  | fail cause hcall => exact List.forall_mem_singleton.mpr (runIn_call hcall).1

/-- Unless a call fails there is no failure. -/
theorem result_eq_ok (h : Course host depth i channel r calls result r') :
    result = .ok () ↔ ∀ c ∈ calls, c.result = .ok () := by
  induction h with
  | stop r => exact ⟨fun _ => List.forall_mem_nil _, fun _ => rfl⟩
  | rerender _ ih => exact ih
  | call cause hcall _ ih => rw [ih, List.forall_mem_cons]; exact (and_iff_right rfl).symm
  | fail cause hcall => simp

/-- A call that fails is the last one, and leaves all as it is in the end. -/
theorem of_error {f : Fault} (h : Course host depth i channel r calls (.error f) r') :
    ∃ c, calls.getLast? = some c ∧ c.result = .error f ∧ c.after = r' := by
  generalize hf : (.error f : Except Fault Unit) = e at h
  induction h with
  | stop r => cases hf
  | rerender _ ih => exact ih hf
  | @call _ _ _ calls _ cause hcall _ ih =>
    obtain ⟨c, hlast, hc⟩ := ih hf
    refine ⟨c, ?_, hc⟩
    rw [List.getLast?_cons, hlast]
    rfl
  | fail cause hcall =>
    cases hf
    exact ⟨_, rfl, rfl, rfl⟩

end Course

/-! ## Handlers -/

/-- What listeners of the host are called for in turn when changes are merged, if there are any. -/
def round (listeners : List Listener) (changes : State) : List Cause :=
  if changes.isEmpty then []
  else (listeners.filterMap Listener.number?).map fun number => .changed number changes

/-- The session once changes are written into the state of a mount, if there are any. -/
def Recorded.written (r : Recorded σ) (i : Nat) (changes : State) : Recorded σ :=
  if changes.isEmpty then r
  else { r with session := r.session.update i (Mount.write changes) }.note (.merging i changes)

/-- A round of listeners is a course of calls. -/
theorem notify_course (host : Host σ) (depth i : Nat) (channel : Option (Channel σ))
    (changes : State) (listeners : List Listener) (r : Recorded σ) :
    ∃ heard result r', Course host depth i channel r heard result r' ∧
      (Store.notify (listen host (callIn host depth) i) changes listeners).runIn r.session =
        (result, r'.session) ∧
      let causes := (listeners.filterMap Listener.number?).map fun n => Cause.changed n changes
      heard.map Call.cause <+: causes ∧ (result = .ok () → heard.map Call.cause = causes) := by
  induction listeners generalizing r with
  | nil => exact ⟨[], .ok (), r, .stop r, rfl, List.prefix_rfl, fun _ => rfl⟩
  | cons l rest ih =>
    cases l with
    | rerender =>
      obtain ⟨heard, result, r', hcourse, hrun, hcauses⟩ :=
        ih { r with session := r.session.update i Mount.rerender }
      refine ⟨heard, result, r', .rerender hcourse, ?_, hcauses⟩
      rw [Store.runIn_notify_cons (by rfl)]
      exact hrun
    | host number =>
      cases hcall : (Recorded.call (Recorded.perform host depth)
          ((Cause.changed number changes).code host i channel)).runIn r with
      | mk result r₁ =>
        obtain ⟨hplain, -⟩ := runIn_call hcall
        cases result with
        | ok _ =>
          obtain ⟨heard, result, r', hcourse, hrun, hsome, hall⟩ := ih r₁
          refine ⟨_, result, r', .call _ hcall hcourse, ?_, ?_, fun hok => ?_⟩
          · rw [Store.runIn_notify_cons hplain]
            exact hrun
          · exact List.cons_prefix_cons.mpr ⟨rfl, hsome⟩
          · exact congrArg (Cause.changed number changes :: ·) (hall hok)
        | error f =>
          refine ⟨_, .error f, r₁, .fail _ hcall, ?_, ?_, nofun⟩
          · rw [Store.notify, Act.runIn_bind]
            have hlisten : (listen host (callIn host depth) i (.host number) changes).runIn
                r.session = (.error f, r₁.session) := hplain
            rw [hlisten]
          · exact List.cons_prefix_cons.mpr ⟨rfl, List.nil_prefix⟩

/--
What a handler of a mount comes to: the listeners that were registered hear of its changes in turn,
up to the first that fails, and if none does, whoever is to be told is told once, of what the state
of the mount is by then.
-/
structure Handled (host : Host σ) (depth i : Nat) (channel : Option (Channel σ))
    (handler : Handler) (t : Trigger) (m : Mount) (r : Recorded σ) (heard told : List (Call σ))
    (result : Except Fault Unit) (r' : Recorded σ) : Prop where
  course : Course host depth i channel (r.written i (handler.changes t)) (heard ++ told) result r'
  merges : ((mergeState host (callIn host depth) i (handler.changes t)).runIn r.session).1 =
    .ok () ↔ ∀ c ∈ heard, c.result = .ok ()
  hears : heard.map Call.cause <+: round m.store.listeners (handler.changes t)
  hearsAll : (∀ c ∈ heard, c.result = .ok ()) →
    heard.map Call.cause = round m.store.listeners (handler.changes t)
  once : told.length ≤ 1
  tells : told ≠ [] ↔
    (∀ c ∈ heard, c.result = .ok ()) ∧ handler.tells.isSome ∧ channel.isSome
  told : ∀ c ∈ told, ∃ name payload, handler.tells = some (name, payload) ∧
    c.cause = .told name (payload (store i c.before.session).values)

section

variable (host : Host σ) (depth : Nat) (channel : Option (Channel σ)) {i : Nat} {m : Mount}
  {r : Recorded σ}

/-- Changes are merged by writing them and calling the listeners. -/
theorem merge_course (hm : r.session.mounts[i]? = some m) (changes : State) :
    ∃ heard result r', Course host depth i channel (r.written i changes) heard result r' ∧
      (mergeState host (callIn host depth) i changes).runIn r.session = (result, r'.session) ∧
      heard.map Call.cause <+: round m.store.listeners changes ∧
      (result = .ok () → heard.map Call.cause = round m.store.listeners changes) := by
  unfold mergeState Store.merge Recorded.written round Act.runIn
  dsimp only
  by_cases hempty : changes.isEmpty = true
  · rw [if_pos hempty, if_pos hempty, if_pos hempty]
    exact ⟨[], .ok (), r, .stop r, rfl, List.prefix_rfl, fun _ => rfl⟩
  · have hstore : store i r.session = m.store := store_of_get hm
    rw [if_neg hempty, if_neg hempty, if_neg hempty, update_store, hstore]
    exact notify_course host depth i channel changes m.store.listeners _

/-- Whoever is to be told is told of what the state is, if there is a channel. -/
theorem tell_course (name : String) (payload : State → Payload) (r : Recorded σ) :
    ∃ told result r', Course host depth i channel r told result r' ∧
      ((compiled host depth i channel).tell name payload).runIn r.session =
        (result, r'.session) ∧
      told.length ≤ 1 ∧ (told ≠ [] ↔ channel.isSome = true) ∧
      ∀ c ∈ told, c.cause = .told name (payload (store i c.before.session).values) := by
  cases channel with
  | none => exact ⟨[], .ok (), r, .stop r, rfl, Nat.zero_le 1, by simp, List.forall_mem_nil _⟩
  | some emit =>
    let cause := Cause.told name (payload (store i r.session).values)
    cases hcall : (Recorded.call (Recorded.perform host depth)
        (cause.code host i (some emit))).runIn r with
    | mk result r' =>
      have hplain := (runIn_call hcall).1
      cases result with
      | ok _ =>
        exact ⟨_, _, r', .call _ hcall (.stop r'), hplain, Nat.le_refl 1, by simp,
          List.forall_mem_singleton.mpr rfl⟩
      | error f =>
        exact ⟨_, _, r', .fail _ hcall, hplain, Nat.le_refl 1, by simp,
          List.forall_mem_singleton.mpr rfl⟩

/-- It makes no difference whether empty changes are merged or left out. -/
theorem runIn_goOn (handler : Handler) (t : Trigger) (s : Session σ) :
    (handler.goOn (compiled host depth i channel) t).runIn s =
      (mergeState host (callIn host depth) i (handler.changes t) >>= fun _ =>
        handler.tellIn (compiled host depth i channel)).runIn s := by
  by_cases hempty : (handler.changes t).isEmpty = true
  · have hgoOn : handler.goOn (compiled host depth i channel) t =
        handler.tellIn (compiled host depth i channel) := if_pos hempty
    have hmerge : (mergeState host (callIn host depth) i (handler.changes t)).runIn s =
        (.ok (), s) := if_pos hempty
    rw [hgoOn, Act.runIn_bind, hmerge]
  · have hgoOn : handler.goOn (compiled host depth i channel) t =
        mergeState host (callIn host depth) i (handler.changes t) >>= fun _ =>
          handler.tellIn (compiled host depth i channel) := if_neg hempty
    rw [hgoOn]

/-- **A handler calls who hears of its changes, and then who is told**, whatever these do. -/
theorem handled_goOn (hm : r.session.mounts[i]? = some m) (handler : Handler) (t : Trigger) :
    ∃ heard told result r', Handled host depth i channel handler t m r heard told result r' ∧
      (handler.goOn (compiled host depth i channel) t).runIn r.session = (result, r'.session) := by
  obtain ⟨heard, result, r₁, hcourse, hmerge, hhears, hall⟩ :=
    merge_course host depth channel hm (handler.changes t)
  have hok := hcourse.result_eq_ok
  have hmerges : ((mergeState host (callIn host depth) i (handler.changes t)).runIn
      r.session).1 = .ok () ↔ ∀ c ∈ heard, c.result = .ok () := by
    rw [hmerge]
    exact hok
  have halone : Course host depth i channel (r.written i (handler.changes t)) (heard ++ []) result
      r₁ := by
    rw [List.append_nil]
    exact hcourse
  rw [runIn_goOn, Act.runIn_bind, hmerge]
  cases result with
  | error f =>
    -- a listener has failed, so the handler ends before it tells anybody
    refine ⟨heard, [], .error f, r₁, ⟨halone, hmerges, hhears, fun h => hall (hok.mpr h),
      Nat.zero_le 1, ?_, List.forall_mem_nil _⟩, rfl⟩
    exact ⟨fun hne => absurd rfl hne, fun h => by cases hok.mpr h.1⟩
  | ok _ =>
    have hheard := hok.mp rfl
    unfold Handler.tellIn
    cases htells : handler.tells with
    | none =>
      refine ⟨heard, [], .ok (), r₁, ⟨halone, hmerges, hhears, fun _ => hall rfl, Nat.zero_le 1,
        ?_, List.forall_mem_nil _⟩, rfl⟩
      simp [htells]
    | some tells =>
      obtain ⟨name, payload⟩ := tells
      obtain ⟨told, result, r', htold, htell, honce, hsome, hcause⟩ :=
        tell_course host depth channel name payload r₁
      refine ⟨heard, told, result, r', ⟨hcourse.append htold, hmerges, hhears, fun _ => hall rfl,
        honce, ?_, fun c hc => ⟨name, payload, htells, hcause c hc⟩⟩, htell⟩
      rw [hsome, htells]
      exact ⟨fun h => ⟨hheard, rfl, h⟩, fun h => h.2.2⟩

end

end Session

end AssistantUI
