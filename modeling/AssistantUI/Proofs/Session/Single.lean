import AssistantUI.Proofs.Dict
import AssistantUI.Proofs.Session.Permitted

/-!
# One mount at a time

Mounts are never forgotten, and host code can get at any of them: it may merge into the state of an
old one, render it or run its handlers, and it may do so while a handler of another one is running.
What it cannot do is to bring one up again. So at most one mount is mounted, and that is the present
one (`Session.Single`), wherever host code runs.

Who is told of an event can therefore look at what is present to learn whose event it is. What the
event tells of depends on the shape of the definition, and the handlers in a table have the shape
that goes with their mount (`Handler.Fits`). Handlers that were taken from a table keep it, as long
as they are run by the mount that they were taken from (`Op.Fair`).
-/

namespace AssistantUI

/-! ## Handlers and definitions -/

/-- The handler has the shape of those that rendering the definition registers. -/
def Handler.Fits : Handler → Option Definition → Prop
  | described _, some (.tree _) => True
  | fieldChange _, some (.flat ..) => True
  | formSubmit, some (.flat ..) => True
  | _, _ => False

theorem Content.fits_of_mem_registrations {state : State} {pos : Position} {root : Node}
    {e : String × Callback} (h : e ∈ (Content.single root).registrations state pos) :
    e.2.handler.Fits (some (.tree root)) := by
  obtain ⟨visit, -, he⟩ := List.mem_flatMap.mp h
  cases visit with
  | leave => exact absurd he List.not_mem_nil
  | enter pos n =>
    obtain ⟨event, -, rfl⟩ := List.mem_map.mp he
    trivial

theorem Flat.fits_of_mem_fieldRegistrations {state : State} {type : String} {members : Component}
    {components : List Component} {i : Nat} {e : String × Callback}
    (h : e ∈ fieldRegistrations state i components) :
    e.2.handler.Fits (some (.flat type members)) := by
  induction components generalizing i with
  | nil => exact absurd h List.not_mem_nil
  | cons c rest ih =>
    unfold fieldRegistrations at h
    rcases List.mem_append.mp h with h | h
    · cases hkind : fieldKind? c with
      | none =>
        rw [hkind] at h
        exact absurd h List.not_mem_nil
      | some kind =>
        rw [hkind] at h
        rw [List.mem_singleton.mp h]
        trivial
    · exact ih h

theorem Flat.fits_of_mem_registrations {state : State} {type : String} {members : Component}
    {e : String × Callback} (h : e ∈ registrations state type members) :
    e.2.handler.Fits (some (.flat type members)) := by
  unfold registrations at h
  split at h
  · rcases List.mem_append.mp h with h | h
    · exact fits_of_mem_fieldRegistrations h
    · rw [List.mem_singleton.mp h]
      trivial
  · exact absurd h List.not_mem_nil

/-- What is registered when a definition is rendered fits it. -/
theorem Definition.fits_of_get?_callbacks? {state : State} {definition : Option Definition}
    {key : String} {callback : Callback}
    (h : (callbacks? state definition).get? key = some callback) :
    callback.handler.Fits definition := by
  match definition with
  | none => exact absurd h (by simp [callbacks?])
  | some (.tree root) =>
    obtain ⟨e, he, heq⟩ := List.mem_map.mp (Dict.value_of_get?_ofList h)
    exact heq ▸ Content.fits_of_mem_registrations he
  | some (.flat type members) =>
    obtain ⟨e, he, heq⟩ := List.mem_map.mp (Dict.value_of_get?_ofList h)
    exact heq ▸ Flat.fits_of_mem_registrations he

namespace Mount

/-- The handlers in the table of a mount fit its definition. -/
def Apt (m : Mount) : Prop :=
  ∀ key callback, m.callbacks.get? key = some callback → callback.handler.Fits m.definition

theorem apt_render (m : Mount) : m.render.Apt :=
  fun _ _ => Definition.fits_of_get?_callbacks?

theorem Apt.stop {m : Mount} (h : m.Apt) : m.stop.Apt := by
  unfold Mount.stop
  split
  · exact fun _ _ hcallback => absurd hcallback (by simp)
  · exact h

theorem Apt.merge {m : Mount} (h : m.Apt) (changes : State) : (m.merge changes).Apt := by
  unfold Mount.merge rerender
  split
  · exact apt_render _
  · exact h

theorem mounted_stop (m : Mount) : m.stop.mounted = false := by
  unfold Mount.stop
  split
  · rfl
  · next h => exact Bool.eq_false_iff.mpr h

theorem mounted_merge (m : Mount) (changes : State) : (m.merge changes).mounted = m.mounted := by
  unfold Mount.merge rerender
  split <;> rfl

end Mount

namespace Session

variable {σ : Type}

/-! ## At most one mount -/

/-- No mount is mounted but the present one. -/
def Single (s : Session σ) : Prop :=
  ∀ (i : Nat) (m : Mount), s.mounts[i]? = some m → m.mounted = true → s.current = some i

/-- At most one mount is mounted, and all handlers are where they belong. -/
structure Sound (s : Session σ) : Prop where
  single : s.Single
  apt : ∀ (i : Nat) (m : Mount), s.mounts[i]? = some m → m.Apt

theorem sound_new (memory : σ) : (new memory).Sound := ⟨nofun, nofun⟩

/-- Once what is present is taken down, nothing is mounted. -/
theorem Single.unmount {s : Session σ} (h : s.Single) {i : Nat} {m : Mount}
    (hm : s.unmount.mounts[i]? = some m) : m.mounted = false := by
  cases hcurrent : s.current with
  | none =>
    have hsame : s.unmount = s := by
      unfold Session.unmount
      rw [hcurrent]
    rw [hsame] at hm
    refine Bool.eq_false_iff.mpr fun hmounted => ?_
    have hpresent := h i m hm hmounted
    rw [hcurrent] at hpresent
    cases hpresent
  | some j =>
    rw [get?_unmount_of_current hcurrent] at hm
    split at hm
    · obtain ⟨m', -, rfl⟩ := Option.map_eq_some_iff.mp hm
      exact m'.mounted_stop
    · next hne =>
      refine Bool.eq_false_iff.mpr fun hmounted => hne ?_
      exact Option.some.inj (hcurrent.symm.trans (h i m hm hmounted))

namespace Sound

variable {s s' : Session σ}

theorem of_face (h : s.Sound) (hcurrent : s'.current = s.current)
    (hface : s'.mounts.map Mount.face = s.mounts.map Mount.face) : s'.Sound where
  single i m' hm' hmounted := by
    obtain ⟨m, hm, heq⟩ := get?_of_face hface hm'
    rw [hcurrent]
    exact h.single i m hm ((Mount.eq_of_face Mount.mounted (fun _ => rfl) heq).trans hmounted)
  apt i m' hm' := by
    obtain ⟨m, hm, heq⟩ := get?_of_face hface hm'
    exact (Mount.eq_of_face Mount.Apt (fun _ => rfl) heq).mp (h.apt i m hm)

/-- One mount may change as long as it does not come up. -/
theorem update (h : s.Sound) (i : Nat) {f : Mount → Mount}
    (hmounted : ∀ m, (f m).mounted = true → m.mounted = true) (hapt : ∀ m, m.Apt → (f m).Apt) :
    (s.update i f).Sound where
  single j m hm hup := by
    rw [get?_update] at hm
    split at hm
    · obtain ⟨m', hm', rfl⟩ := Option.map_eq_some_iff.mp hm
      exact h.single j m' hm' (hmounted m' hup)
    · exact h.single j m hm hup
  apt j m hm := by
    rw [get?_update] at hm
    split at hm
    · obtain ⟨m', hm', rfl⟩ := Option.map_eq_some_iff.mp hm
      exact hapt m' (h.apt j m' hm')
    · exact h.apt j m hm

theorem stop (h : s.Sound) (i : Nat) : (s.update i Mount.stop).Sound :=
  h.update i (fun m hup => absurd (m.mounted_stop.symm.trans hup) nofun) fun _ => Mount.Apt.stop

theorem unmount (h : s.Sound) : s.unmount.Sound where
  single i m hm hup := absurd ((h.single.unmount hm).symm.trans hup) nofun
  apt i m hm := by
    cases hcurrent : s.current with
    | none =>
      unfold Session.unmount at hm
      rw [hcurrent] at hm
      exact h.apt i m hm
    | some j =>
      unfold Session.unmount at hm
      rw [hcurrent] at hm
      exact (h.stop j).apt i m hm

theorem start (h : s.Sound) (hcurrent : s.current = none) (id : String)
    (definition : Option Definition) (issues : List Issue) :
    (s.start (Mount.start id definition issues)).Sound where
  single i m hm hup := by
    rw [Session.start, List.getElem?_append] at hm
    split at hm
    · have hpresent := h.single i m hm hup
      rw [hcurrent] at hpresent
      cases hpresent
    · obtain ⟨hlt, -⟩ := List.getElem?_eq_some_iff.mp hm
      rw [List.length_singleton] at hlt
      exact congrArg some (by omega)
  apt i m hm := by
    rw [Session.start, List.getElem?_append] at hm
    split at hm
    · exact h.apt i m hm
    · rw [List.mem_singleton.mp (List.mem_of_getElem? hm)]
      exact Mount.apt_render _

end Sound

/-- At most one mount is mounted after whatever is done to a session. -/
theorem steady_sound : Steady fun r : Recorded σ => Sound r.session where
  seeing h := h
  telling _ _ h _ _ := h
  hidden h hcurrent hface := h.of_face hcurrent hface
  stop i h := h.stop i
  unmount h := h.unmount
  start id definition issues h hcurrent := h.start hcurrent id definition issues
  render h _ := h.update _ (fun _ hup => hup) fun m _ => m.apt_render
  merge h _ _ := h.update _ (fun m hup => (m.mounted_merge _).symm.trans hup) fun _ hm => hm.merge _

/-! ## Handlers that are run by their mounts -/

/-- A handler that is run fits the mount that runs it. -/
def Op.Fair (s : Session σ) : Op σ → Prop
  | .runHandler i handler _ => ∃ m, s.mounts[i]? = some m ∧ handler.Fits m.definition
  | _ => True

/-- A handler that was found in the table of a mount may be run by that mount ever after. -/
theorem fair_of_found {s s' : Session σ} (h : s.Sound) {i : Nat} {m : Mount}
    (hm : s.mounts[i]? = some m) {key : String} {callback : Callback}
    (hcallback : m.callbacks.get? key = some callback) (hgrows : s.Grows s') (t : Trigger) :
    Op.Fair s' (.runHandler i callback.handler t) := by
  obtain ⟨m', hm', hdefinition⟩ := hgrows i m hm
  exact ⟨m', hm', hdefinition ▸ h.apt i m hm key callback hcallback⟩

/-- By the time that a handler tells of an event, it still fits the mount that runs it. -/
theorem fits_of_runs {s s' : Session σ} (h : s.Sound) {op : Op σ} (hop : op.Fair s) {i : Nat}
    {handler : Handler} (hruns : op.Runs s i handler) (hgrows : s.Grows s') {m : Mount}
    (hm : s'.mounts[i]? = some m) : handler.Fits m.definition := by
  have hfits : ∃ m₀, s.mounts[i]? = some m₀ ∧ handler.Fits m₀.definition := by
    cases op with
    | runHandler j handler' t =>
      obtain ⟨rfl, rfl⟩ := hruns
      exact hop
    | invoke j key t =>
      obtain ⟨rfl, callback, hcallback, rfl⟩ := hruns
      obtain ⟨m₀, hm₀, hkey⟩ := Option.bind_eq_some_iff.mp hcallback
      cases key with
      | text name => exact fair_of_found h hm₀ hkey (.refl s) t
      | _ => cases hkey
    | _ => cases hruns
  obtain ⟨m₀, hm₀, hfits⟩ := hfits
  obtain ⟨m', hm', hdefinition⟩ := hgrows i m₀ hm₀
  obtain rfl := Option.some.inj (hm.symm.trans hm')
  exact hdefinition ▸ hfits

end Session

end AssistantUI
