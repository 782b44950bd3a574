import AssistantUI.Proofs.Dict
import AssistantUI.Proofs.Session.Silence

/-!
# Handlers last

Every change of the state throws the table of callbacks away and makes a new one. What a callback
is registered for is its handler, its event and the tag of its element, and none of these is made
of the state: only the props are. So the keys of the table stay as they were in the first
rendering, in the same order and with the same handlers (`Definition.settled_callbacks?`), for a
tree as well as for a flat form.

Handlers are data and hold nothing of the state they were registered in. One that was taken from an
earlier table does what the present one does, in whatever state it is run.
-/

namespace AssistantUI

/-! ## What callbacks are registered for -/

/-- What a callback is registered for: all of it but the props. -/
structure Purpose where
  handler : Handler
  event : String
  tag : String
  deriving DecidableEq

/-- What a callback is registered for. -/
def Callback.purpose (c : Callback) : Purpose := ⟨c.handler, c.event, c.tag⟩

/-- Bindings of callbacks to keys, with what they are registered for. -/
def purposes (l : List (String × Callback)) : List (String × Purpose) :=
  l.map fun e => (e.1, e.2.purpose)

theorem purposes_append (l m : List (String × Callback)) :
    purposes (l ++ m) = purposes l ++ purposes m := List.map_append

theorem Visit.purposes_callbacks (s t : State) (v : Visit) :
    purposes (v.callbacks s) = purposes (v.callbacks t) := by
  cases v with
  | enter pos n =>
    show purposes (n.callbacks s pos) = purposes (n.callbacks t pos)
    unfold purposes Node.callbacks
    rw [List.map_map, List.map_map]
    rfl
  | leave pos n => rfl

theorem Content.purposes_registrations (s t : State) (pos : Position) (c : Content) :
    purposes (c.registrations s pos) = purposes (c.registrations t pos) := by
  unfold registrations
  induction c.walk pos with
  | nil => rfl
  | cons v rest ih =>
    rw [List.flatMap_cons, List.flatMap_cons, purposes_append, purposes_append, ih,
      Visit.purposes_callbacks s t v]

theorem Flat.purposes_fieldRegistrations (s t : State) (i : Nat) (components : List Component) :
    purposes (fieldRegistrations s i components) =
      purposes (fieldRegistrations t i components) := by
  induction components generalizing i with
  | nil => rfl
  | cons c rest ih =>
    rw [fieldRegistrations, fieldRegistrations, purposes_append, purposes_append, ih (i + 1)]
    cases fieldKind? c with
    | none => rfl
    | some kind => rfl

theorem Flat.purposes_registrations (s t : State) (type : String) (members : Component) :
    purposes (registrations s type members) = purposes (registrations t type members) := by
  unfold registrations
  by_cases htype : type = "form"
  · rw [if_pos htype, if_pos htype, formRegistrations, formRegistrations, purposes_append,
      purposes_append, purposes_fieldRegistrations s t]
  · rw [if_neg htype, if_neg htype]

/-- **No state changes what the callbacks of a definition are registered for.** -/
theorem Definition.settled_callbacks? (s t : State) (d : Option Definition) :
    (callbacks? s d).map Callback.purpose = (callbacks? t d).map Callback.purpose := by
  have hofList (l l' : List (String × Callback)) (h : purposes l = purposes l') :
      (Dict.ofList l).map Callback.purpose = (Dict.ofList l').map Callback.purpose := by
    -- where a key is bound more than once, the keys alone say which binding is left
    rw [Dict.map_ofList, Dict.map_ofList]
    exact congrArg Dict.ofList h
  cases d with
  | none => rfl
  | some d =>
    cases d with
    | tree root => exact hofList _ _ (Content.purposes_registrations s t "" (.single root))
    | flat type members => exact hofList _ _ (Flat.purposes_registrations s t type members)

/-- The keys of a table in order, each with the event and the tag of its callback. -/
def Callbacks.signature (cs : Callbacks) : List (String × String × String) :=
  cs.entries.map fun e => (e.1, e.2.event, e.2.tag)

section

variable {cs cs' : Callbacks} (h : cs.map Callback.purpose = cs'.map Callback.purpose)
include h

theorem Callbacks.signature_congr : cs.signature = cs'.signature := by
  have hsignature (cs : Callbacks) : cs.signature =
      (cs.map Callback.purpose).entries.map fun e => (e.1, e.2.event, e.2.tag) := by
    rw [Dict.entries_map, List.map_map]
    rfl
  rw [hsignature, h, ← hsignature]

/-- Under each key of one table there is the same handler in the other. -/
theorem Callbacks.handler_of_get? {key : String} {old : Callback} (hold : cs.get? key = some old) :
    ∃ new, cs'.get? key = some new ∧ new.handler = old.handler := by
  have hpurpose : (cs'.get? key).map Callback.purpose = some old.purpose := by
    rw [← Dict.get?_map, ← h, Dict.get?_map, hold]
    rfl
  obtain ⟨new, hnew, heq⟩ := Option.map_eq_some_iff.mp hpurpose
  exact ⟨new, hnew, congrArg Purpose.handler heq⟩

end

namespace Session

variable {σ : Type}

/-! ## Over a run -/

/-- Invoking a key runs the handler that is registered under it, and notes what fails. -/
theorem invoke_of_get? {host : Host σ} {call : (Session σ → Code σ) → Act (Session σ) Unit}
    {i : Nat} {s : Session σ} {m : Mount} (hm : s.mounts[i]? = some m) {key : String}
    {callback : Callback} (hkey : m.callbacks.get? key = some callback) (t : Trigger) :
    invoke host call i (.text key) t s =
      let (result, t', s') := runHandler host call i callback.handler t s
      match result with
      | .ok () => (some t', s')
      | .error f => (some t', s'.update i fun m => m.report (.handlerRaised key f)) := by
  have hcallback : ((s.mounts[i]?).bind fun m => m.callbacks.at? (.text key)) = some callback := by
    rw [hm]
    exact hkey
  unfold invoke
  rw [hcallback]
  rfl

/-- At all lines where host code finds a mount, it is made of the same definition. -/
theorem definition_of_found {journal : List (Moment σ)} {k l i : Nat} {m m' : Mount}
    (h : UpToDate i (journal.take k) m) (h' : UpToDate i (journal.take l) m') :
    m'.definition = m.definition := by
  have hmade := (h.made m.definition).mpr rfl
  have hmade' := (h'.made m'.definition).mpr rfl
  -- the mount was made before the earlier of the two lines
  rcases Nat.le_total k l with hkl | hlk
  · exact ((h'.made m.definition).mp (List.take_subset_take_left journal hkl hmade)).symm
  · exact (h.made m'.definition).mp (List.take_subset_take_left journal hlk hmade')

/-- **As long as it is mounted, a mount keeps its keys and its handlers.** Wherever host code finds
it mounted, its keys are those of the first rendering in the same order, each for the same event of
an element with the same tag. A callback that was there at one time has one under its key at every
other, and the handlers of the two do the same, in any session and for any trigger. So invoking the
key does what a handler does that was taken from the table earlier, or is taken later. -/
theorem handlers_last (host : Host σ) (depth : Nat) (memory : σ) (code : Session σ → Code σ) :
    let plain := ((code (.new memory)).run (perform host depth)).runIn (.new memory)
    let recorded := Recorded.run host depth memory code
    let journal := recorded.2.journal
    recorded.1 = plain.1 ∧ recorded.2.session = plain.2 ∧
    ∀ k i m, Found journal k i m → m.mounted = true →
      m.callbacks.signature = (Definition.callbacks? ∅ m.definition).signature ∧
      ∀ (l : Nat) s m', journal[l]? = some (.seeing s) → s.mounts[i]? = some m' →
        m'.mounted = true →
        m'.callbacks.signature = m.callbacks.signature ∧
        ∀ key old, m.callbacks.get? key = some old →
          ∃ new, m'.callbacks.get? key = some new ∧
          ∀ (call : (Session σ → Code σ) → Act (Session σ) Unit) (t : Trigger),
            (∀ s', runHandler host call i old.handler t s' =
              runHandler host call i new.handler t s') ∧
            invoke host call i (.text key) t s =
              let (result, t', s') := runHandler host call i old.handler t s
              match result with
              | .ok () => (some t', s')
              | .error f => (some t', s'.update i fun m => m.report (.handlerRaised key f)) := by
  obtain ⟨hresult, hsession, hfresh⟩ :=
    steady_fresh.run (fun _ => fresh_new) host depth memory code
  refine ⟨hresult, hsession, ?_⟩
  rintro k i m ⟨s₀, hs₀, hm⟩ hmounted
  have hup := hfresh.seen k s₀ hs₀ i m hm
  have hcallbacks := hup.callbacks hmounted
  refine ⟨?_, fun l s m' hs hm' hmounted' => ?_⟩
  · rw [hcallbacks]
    exact Callbacks.signature_congr (Definition.settled_callbacks? _ _ m.definition)
  · have hup' := hfresh.seen l s hs i m' hm'
    have hcallbacks' := hup'.callbacks hmounted'
    rw [definition_of_found hup hup'] at hcallbacks'
    -- both tables are of one definition, each in its own state
    have hpurposes : m.callbacks.map Callback.purpose = m'.callbacks.map Callback.purpose := by
      rw [hcallbacks, hcallbacks']
      exact Definition.settled_callbacks? _ _ m.definition
    refine ⟨(Callbacks.signature_congr hpurposes).symm, fun key old hold => ?_⟩
    obtain ⟨new, hnew, hhandler⟩ := Callbacks.handler_of_get? hpurposes hold
    refine ⟨new, hnew, fun call t => ⟨fun s' => by rw [hhandler], ?_⟩⟩
    rw [invoke_of_get? hm' hnew, hhandler]

/-- A host that does nothing but name its mounts. -/
def quietHost : Host Unit := ⟨fun _ => "m", none, fun _ _ _ _ => .done⟩

/-- Mounts a flat form of one field, and lets the user write into it. -/
def formCode (_ : Session Unit) : Code Unit :=
  let field : List (String × Json) := [("type", .str "input"), ("name", .str "name")]
  .ask (.mount (.definition (.flat "form" [("components", .arr [.null, .obj field])]))) fun _ _ =>
    .ask (.invoke 0 (.text "form.0.onChange") { value := .str "a" }) fun _ _ => .done

/-- The field shows what was written, and a handler that was there before still writes. -/
theorem handlers_last_form :
    let journal := (Recorded.run quietHost 2 () formCode).2.journal
    ∃ s m m' old new, journal[4]? = some (.seeing s) ∧ Found journal 2 0 m ∧
      s.mounts[0]? = some m' ∧ m.callbacks.get? "form.0.onChange" = some old ∧
      m'.callbacks.get? "form.0.onChange" = some new ∧ old.props ≠ new.props ∧
      m'.callbacks.signature =
        [("form.0.onChange", "onChange", "input"), ("form.onSubmit", "onSubmit", "form")] ∧
      runHandler quietHost (fun _ => pure ()) 0 old.handler {} s =
        runHandler quietHost (fun _ => pure ()) 0 new.handler {} s := by
  intro journal
  obtain ⟨-, -, hlast⟩ := handlers_last quietHost 2 () formCode
  have hfound : Found journal 2 0 _ := ⟨_, rfl, rfl⟩
  have hseen : journal[4]? = some (.seeing _) := rfl
  obtain ⟨-, hlater⟩ := hlast 2 0 _ hfound rfl
  obtain ⟨-, hhandlers⟩ := hlater 4 _ _ hseen rfl rfl
  obtain ⟨new, hnew, hsame⟩ := hhandlers "form.0.onChange" _ rfl
  obtain ⟨hrun, -⟩ := hsame (fun _ => pure ()) {}
  cases hnew
  exact ⟨_, _, _, _, _, hseen, hfound, rfl, rfl, rfl, by decide +kernel, rfl, hrun _⟩

end Session

end AssistantUI
