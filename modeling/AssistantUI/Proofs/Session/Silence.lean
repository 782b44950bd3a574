import Mathlib.Logic.Relation
import AssistantUI.Proofs.Session.Freshness
import AssistantUI.Proofs.Session.Lasting

/-!
# A mount that is taken down is silent

Taking a mount down can happen at any time: by its own handler while it runs, in the middle of a
round of its listeners, in the callback for its event. What was begun goes on. The handler still
merges and still comes to the point where the host is told, listeners that were registered are
still called, and handlers that somebody kept can be run years later. None of it shows. The host
is told of nothing more, nothing is rendered, and the table of callbacks stays empty
(`silent_once_down`).

The one exception is host code that asks to render the mount itself, and a journal has a line for
that. What is said of a mount is therefore said up to such a line.
-/

namespace AssistantUI.Session

variable {σ : Type}

/-- Is the host told of an event of a mount here? -/
def Moment.tells (i : Nat) : Moment σ → Bool
  | telling j _ _ => j == i
  | _ => false

/-- What the host is told here, if it is told of something, and by which mount. -/
def Moment.told? : Moment σ → Option (Nat × String × Payload)
  | telling i name payload => some (i, name, payload)
  | _ => none

theorem Moment.mem_filterMap_told? {journal : List (Moment σ)} {i : Nat} {name : String}
    {payload : Payload} (h : (i, name, payload) ∈ journal.filterMap told?) :
    ∃ k : Nat, journal[k]? = some (.telling i name payload) := by
  obtain ⟨e, hmem, he⟩ := List.mem_filterMap.mp h
  cases e with
  | telling =>
    cases he
    exact List.mem_iff_getElem?.mp hmem
  | _ => cases he

theorem Moment.tells_of_subject {e : Moment σ} {i j : Nat} (h : e.subject = some j) (hj : j ≠ i) :
    e.tells i = false ∧ e.renders i = false := by
  cases e with
  | telling k name payload => cases h; exact ⟨beq_false_of_ne hj, rfl⟩
  | rendering k => cases h; exact ⟨rfl, beq_false_of_ne hj⟩
  | seeing s => cases h
  | _ => exact ⟨rfl, rfl⟩

/-- Host code found a mount as it is given, at a line of the journal. -/
def Found (journal : List (Moment σ)) (k i : Nat) (m : Mount) : Prop :=
  ∃ s, journal[k]? = some (.seeing s) ∧ s.mounts[i]? = some m

/-- Host code did not find a mount down, at a line of the journal: it was mounted, or not made. -/
def FoundUp (journal : List (Moment σ)) (k i : Nat) : Prop :=
  ∃ s, journal[k]? = some (.seeing s) ∧ ∀ m, s.mounts[i]? = some m → m.mounted = true

section

variable {journal : List (Moment σ)} {k i : Nat} {e : Moment σ}

/-- A line is one of those before, or the new one. -/
theorem getElem?_snoc {f : Moment σ} (h : (journal ++ [e])[k]? = some f) :
    (k < journal.length ∧ journal[k]? = some f) ∨ (k = journal.length ∧ e = f) := by
  by_cases hk : k < journal.length
  · rw [List.getElem?_append_left hk] at h
    exact Or.inl ⟨hk, h⟩
  · rw [List.getElem?_append_right (by omega)] at h
    obtain ⟨hlt, hget⟩ := List.getElem?_eq_some_iff.mp h
    rw [List.length_singleton] at hlt
    exact Or.inr ⟨by omega, by rw [← hget, List.getElem_singleton]⟩

theorem drop_snoc (hk : k < journal.length) : (journal ++ [e]).drop k = journal.drop k ++ [e] :=
  List.drop_append_of_le_length (by omega)

theorem drop_snoc_length : (journal ++ [e]).drop journal.length = [e] := List.drop_left

end

/-! ## What lasts of a mount that is down -/

/-- What is known of a mount that host code found down. -/
structure Silent (i : Nat) (journal : List (Moment σ)) (m : Mount) : Prop where
  /-- It stays down, and is only rendered on demand. -/
  down : ∀ k m₀, Found journal k i m₀ → m₀.mounted = false →
    m.mounted = false ∧ m.renderCount = m₀.renderCount + (journal.drop k).countP (Moment.renders i)
  untold : ∀ k m₀, Found journal k i m₀ → m₀.mounted = false →
    ∀ e ∈ journal.drop k, e.tells i = false
  /-- It shows nothing, unless it is rendered after host code last found it up. -/
  blank : m.mounted = false → ∀ k, FoundUp journal k i →
    (∀ e ∈ journal.drop k, e.renders i = false) → m.view = .nothing ∧ m.callbacks = ∅

/-- How a line and a change of the mount that comes with it may go together. -/
theorem Silent.note {i : Nat} {journal : List (Moment σ)} {m m' : Mount} (h : Silent i journal m)
    {e : Moment σ} (hup : m.mounted = true → m'.mounted = true)
    (hdown : m.mounted = false → m'.mounted = false ∧ e.tells i = false ∧
      m'.renderCount = m.renderCount + [e].countP (Moment.renders i))
    (hsame : m.mounted = false → e.renders i = false →
      m'.view = m.view ∧ m'.callbacks = m.callbacks)
    (hseeing : ∀ s, e = .seeing s → s.mounts[i]? = some m') : Silent i (journal ++ [e]) m' := by
  have hdown' : m'.mounted = false → m.mounted = false := by
    intro hm'
    cases hm : m.mounted with
    | false => rfl
    | true => rw [hup hm] at hm'; cases hm'
  refine ⟨?_, ?_, ?_⟩
  · rintro k m₀ ⟨s, hs, hm₀⟩ hmounted
    rcases getElem?_snoc hs with ⟨hk, hs⟩ | ⟨rfl, rfl⟩
    · obtain ⟨hm, hcount⟩ := h.down k m₀ ⟨s, hs, hm₀⟩ hmounted
      obtain ⟨hm', -, hcount'⟩ := hdown hm
      refine ⟨hm', ?_⟩
      rw [drop_snoc hk, List.countP_append, hcount', hcount]
      omega
    · -- the mount was just found as it is now
      obtain rfl := Option.some.inj ((hseeing s rfl).symm.trans hm₀)
      rw [drop_snoc_length]
      exact ⟨hmounted, rfl⟩
  · rintro k m₀ ⟨s, hs, hm₀⟩ hmounted f hf
    rcases getElem?_snoc hs with ⟨hk, hs⟩ | ⟨rfl, rfl⟩
    · rw [drop_snoc hk] at hf
      rcases List.mem_append.mp hf with hf | hf
      · exact h.untold k m₀ ⟨s, hs, hm₀⟩ hmounted f hf
      · rw [List.mem_singleton.mp hf]
        exact (hdown (h.down k m₀ ⟨s, hs, hm₀⟩ hmounted).1).2.1
    · rw [drop_snoc_length] at hf
      rw [List.mem_singleton.mp hf]
      rfl
  · rintro hm' k ⟨s, hs, hs'⟩ hrenders
    have hm := hdown' hm'
    rcases getElem?_snoc hs with ⟨hk, hs⟩ | ⟨rfl, rfl⟩
    · rw [drop_snoc hk] at hrenders
      obtain ⟨hview, hcallbacks⟩ :=
        h.blank hm k ⟨s, hs, hs'⟩ fun f hf => hrenders f (List.mem_append_left _ hf)
      obtain ⟨hview', hcallbacks'⟩ := hsame hm (hrenders e (by simp))
      rw [hview', hcallbacks', hview, hcallbacks]
      exact ⟨rfl, rfl⟩
    · -- the mount cannot have been found up while it is down
      have hfound := hs' m' (hseeing s rfl)
      rw [hm'] at hfound
      cases hfound

/-- A line that does not concern a mount and leaves it as it is. -/
theorem Silent.note_same {i : Nat} {journal : List (Moment σ)} {m : Mount} (h : Silent i journal m)
    {e : Moment σ} (htells : m.mounted = false → e.tells i = false)
    (hrenders : e.renders i = false) (hseeing : ∀ s, e = .seeing s → s.mounts[i]? = some m) :
    Silent i (journal ++ [e]) m := by
  refine h.note id (fun hm => ⟨hm, htells hm, ?_⟩) (fun _ _ => ⟨rfl, rfl⟩) hseeing
  rw [List.countP_singleton, hrenders]
  rfl

theorem lasting_silent : Lasting (σ := σ) Silent where
  face {i journal m m'} h hface := by
    have hview := Mount.eq_of_face Mount.view (fun _ => rfl) hface
    have hcallbacks := Mount.eq_of_face Mount.callbacks (fun _ => rfl) hface
    have hcount := Mount.eq_of_face Mount.renderCount (fun _ => rfl) hface
    have hmounted := Mount.eq_of_face Mount.mounted (fun _ => rfl) hface
    refine ⟨?_, h.untold, ?_⟩
    · rw [hmounted, hcount]
      exact h.down
    · rw [hmounted, hview, hcallbacks]
      exact h.blank
  start {i journal} id definition issues hbelow := by
    -- nobody has found a mount that was not made yet
    have hfresh : ∀ k m₀, ¬ Found (journal ++ [.mounting i definition]) k i m₀ := by
      rintro k m₀ ⟨s, hs, hm₀⟩
      rcases getElem?_snoc hs with ⟨-, hs⟩ | ⟨-, hs⟩
      · have hlength : s.mounts.length ≤ i := hbelow _ (List.mem_of_getElem? hs)
        rw [List.getElem?_eq_none_iff.mpr hlength] at hm₀
        cases hm₀
      · cases hs
    exact ⟨fun k m₀ hm₀ => absurd hm₀ (hfresh k m₀), fun k m₀ hm₀ => absurd hm₀ (hfresh k m₀),
      nofun⟩
  stop {i journal m} h := by
    by_cases hm : m.mounted = true
    · have hup : ∀ k m₀, Found journal k i m₀ → m₀.mounted = true := by
        intro k m₀ hm₀
        cases hmounted : m₀.mounted with
        | true => rfl
        | false => rw [(h.down k m₀ hm₀ hmounted).1] at hm; cases hm
      unfold Mount.stop
      rw [if_pos hm]
      refine ⟨fun k m₀ hm₀ hmounted => ?_, h.untold, fun _ _ _ _ => ⟨rfl, rfl⟩⟩
      rw [hup k m₀ hm₀] at hmounted
      cases hmounted
    · unfold Mount.stop
      rw [if_neg hm]
      exact h
  render {i journal m} h := by
    refine h.note id (fun hm => ⟨hm, rfl, ?_⟩) (fun _ hrenders => ?_)
      fun s hs => by cases hs
    · simp [Moment.renders, Mount.render]
    · simp [Moment.renders] at hrenders
  merge {i journal m} changes h := by
    by_cases hm : m.mounted = true
    · rw [Mount.merge_of_mounted hm]
      refine h.note id (fun hdown => ?_) (fun hdown _ => ?_) fun s hs => by cases hs
      · rw [hm] at hdown
        cases hdown
      · rw [hm] at hdown
        cases hdown
    · rw [Mount.merge_of_not_mounted hm]
      exact h.note id (fun hdown => ⟨hdown, rfl, rfl⟩) (fun _ _ => ⟨rfl, rfl⟩)
        fun s hs => by cases hs
  seeing h hm := h.note_same (fun _ => rfl) rfl fun s hs => by cases hs; exact hm
  telling name payload h hmounted :=
    h.note_same (fun hm => by rw [hmounted] at hm; cases hm) rfl
      fun s hs => by cases hs
  other {i journal m e j} h hsubject hj := by
    obtain ⟨htells, hrenders⟩ := Moment.tells_of_subject hsubject hj
    refine h.note_same (fun _ => htells) hrenders ?_
    rintro s rfl
    cases hsubject

/-! ## How mounts are taken down -/

/-- The operations that take a mount down: one on the mount itself, and any that puts something
else, or nothing, in the place of the present mount. -/
def TakesDown (s : Session σ) (i : Nat) : Op σ → Prop
  | .stop j => j = i
  | .unmount => s.current = some i
  | .mount _ => s.current = some i
  | _ => False

theorem get?_unmount {s : Session σ} {i : Nat} {m : Mount} (hm : s.mounts[i]? = some m)
    (hcurrent : s.current = some i) : s.unmount.mounts[i]? = some m.stop := by
  rw [get?_unmount_of_current hcurrent, if_pos rfl, hm]
  rfl

theorem get?_performWith_of_takesDown (host : Host σ)
    (call : (Session σ → Code σ) → Act (Session σ) Unit) {s : Session σ} {i : Nat} {m : Mount}
    (hm : s.mounts[i]? = some m) {op : Op σ} (hop : TakesDown s i op) :
    ((performWith host call op).runIn s).2.mounts[i]? = some m.stop := by
  cases op with
  | stop j =>
    obtain rfl : j = i := hop
    exact get?_update_self hm Mount.stop
  | unmount => exact get?_unmount hm hop
  | mount what =>
    have hdown := get?_unmount hm hop
    have hlt : i < s.unmount.mounts.length := (List.getElem?_eq_some_iff.mp hdown).1
    show (mount host what s).2.mounts[i]? = _
    rcases session_mount host s what with hsame | ⟨definition, issues, hstarted⟩
    · rw [hsame]
      exact hdown
    · -- the new mount comes behind all others
      rw [hstarted, Session.start, List.getElem?_append_left hlt]
      exact hdown
  | _ => exact absurd hop id

/-! ## What a handler does to other mounts -/

/-- Some host code, called in some session, makes the second of the first of a mount. -/
def TouchedBy (call : (Session σ → Code σ) → Act (Session σ) Unit) (j : Nat)
    (a b : Option Mount) : Prop :=
  ∃ code s, s.mounts[j]? = a ∧ ((call code).runIn s).2.mounts[j]? = b

section

variable {call : (Session σ → Code σ) → Act (Session σ) Unit} {j : Nat} {a : Option Mount}

/-- The same session twice, whose mount `j` comes from `a` by host code alone. -/
def OnlyTouched (call : (Session σ → Code σ) → Act (Session σ) Unit) (j : Nat)
    (a : Option Mount) (s s' : Session σ) : Prop :=
  s = s' ∧ Relation.ReflTransGen (TouchedBy call j) a s.mounts[j]?

theorem OnlyTouched.of_eq {s s' : Session σ} (h : OnlyTouched call j a s s)
    (hs : s'.mounts[j]? = s.mounts[j]?) : OnlyTouched call j a s' s' :=
  ⟨rfl, by rw [hs]; exact h.2⟩

/-- An act that leaves the mount as it is. -/
theorem onlyTouched_of_eq {α : Type} {act : Act (Session σ) α}
    (h : ∀ s, ((act.runIn s).2).mounts[j]? = s.mounts[j]?) :
    Act.Simulates (OnlyTouched call j a) act act := by
  rintro s _ ⟨rfl, htouched⟩
  exact ⟨rfl, OnlyTouched.of_eq ⟨rfl, htouched⟩ (h s)⟩

theorem onlyTouched_call (code : Session σ → Code σ) :
    Act.Simulates (OnlyTouched call j a) (call code) (call code) := by
  rintro s _ ⟨rfl, htouched⟩
  exact ⟨rfl, rfl, htouched.tail ⟨code, s, rfl, rfl⟩⟩

theorem onlyTouched_surroundings (host : Host σ) {i : Nat} (hij : i ≠ j) :
    (surroundings host call i).Simulates (OnlyTouched call j a) (surroundings host call i) where
  prevent := onlyTouched_of_eq fun _ => rfl
  merge changes := by
    refine Store.merge_simulates ?_
    rintro s _ ⟨rfl, htouched⟩ -
    -- the changes are written into mount `i`, and then its listeners are called
    refine Store.notify_simulates (fun l _ => ?_) _ _
      (OnlyTouched.of_eq ⟨rfl, htouched⟩ (get?_update_of_ne s hij _))
    cases l with
    | rerender => exact onlyTouched_of_eq fun s => get?_update_of_ne s hij _
    | host number => exact onlyTouched_call _
  snapshot := onlyTouched_of_eq fun _ => rfl
  emit := .some fun name payload => by
    rintro s _ ⟨rfl, htouched⟩
    dsimp only [Session.emit, Act.runIn]
    cases host.onEvent with
    | none => exact ⟨rfl, rfl, htouched⟩
    | some onEvent =>
      cases s.mounts[i]? with
      | none => exact ⟨rfl, rfl, htouched⟩
      | some m =>
        dsimp only
        by_cases hm : m.mounted = true
        · rw [if_pos hm]
          exact onlyTouched_call _ s s ⟨rfl, htouched⟩
        · rw [if_neg hm]
          exact ⟨rfl, rfl, htouched⟩

/-- Whatever a handler of one mount leads to, another mount changes by host code alone. -/
theorem touched_runHandler (host : Host σ) {i : Nat} (hij : i ≠ j) (handler : Handler) (t : Trigger)
    (s : Session σ) : Relation.ReflTransGen (TouchedBy call j) s.mounts[j]?
      (runHandler host call i handler t s).2.2.mounts[j]? := by
  have hsame : (surroundings host call i).Simulates (OnlyTouched call j s.mounts[j]?)
      (surroundings host call i) := onlyTouched_surroundings host hij
  have hrun := Handler.run_simulates hsame t handler { s with running := t :: s.running } _
    ⟨rfl, .refl⟩
  exact hrun.2.2

end

/-! ## The statement -/

/-- **Once a mount is down, nothing more is heard or seen of it.** Taking a mount down leaves it
without view and callbacks. From where host code finds it down, it is down for good, the host is
told of nothing on its behalf, and it is rendered only if host code asks for that; if nobody did
since the mount was last found up, it shows nothing and has no callbacks. And whenever a handler
is run, of a mount that is up or down, no other mount is changed by anything but host code. -/
theorem silent_once_down (host : Host σ) (depth : Nat) (memory : σ) (code : Session σ → Code σ) :
    let plain := ((code (.new memory)).run (perform host depth)).runIn (.new memory)
    let recorded := Recorded.run host depth memory code
    let journal := recorded.2.journal
    (recorded.1 = plain.1 ∧ recorded.2.session = plain.2) ∧
    (∀ call s i m op, s.mounts[i]? = some m → m.mounted = true → TakesDown s i op →
      ∃ m', ((performWith host call op).runIn s).2.mounts[i]? = some m' ∧ m'.mounted = false ∧
        m'.view = .nothing ∧ m'.callbacks = ∅ ∧ m'.renderCount = m.renderCount) ∧
    (∀ k i m, Found journal k i m → m.mounted = false →
      (∀ l, k ≤ l → ∀ name payload, journal[l]? ≠ some (.telling i name payload)) ∧
      (∀ l s, k ≤ l → journal[l]? = some (.seeing s) → ∃ m', s.mounts[i]? = some m' ∧
        m'.mounted = false ∧ m'.renderCount =
          m.renderCount + ((journal.take l).drop k).countP (Moment.renders i)) ∧
      (∀ j, j ≤ k → FoundUp journal j i → (.rendering i) ∉ (journal.take k).drop j →
        m.view = .nothing ∧ m.callbacks = ∅)) ∧
    ∀ call i j handler t s, i ≠ j → Relation.ReflTransGen (TouchedBy call j) s.mounts[j]?
      (runHandler host call i handler t s).2.2.mounts[j]? := by
  intro plain recorded journal
  obtain ⟨hresult, hsession, hkept⟩ := lasting_silent.run host depth memory code
  refine ⟨⟨hresult, hsession⟩, ?_, ?_, fun call i j handler t s hij =>
    touched_runHandler host hij handler t s⟩
  · intro call s i m op hm hmounted hop
    refine ⟨m.stop, get?_performWith_of_takesDown host call hm hop, ?_⟩
    unfold Mount.stop
    rw [if_pos hmounted]
    exact ⟨rfl, rfl, rfl, rfl⟩
  · rintro k i m ⟨s, hs, hm⟩ hmounted
    have hi : i < s.mounts.length := (List.getElem?_eq_some_iff.mp hm).1
    have hk : k < journal.length := (List.getElem?_eq_some_iff.mp hs).1
    refine ⟨?_, ?_, ?_⟩
    · -- the mount is still there at the end, and remembers
      intro l hl name payload htelling
      have hbelow : s.mounts.length ≤ recorded.2.session.mounts.length :=
        hkept.now.below _ (List.mem_of_getElem? hs)
      obtain ⟨m', hm'⟩ : ∃ m', recorded.2.session.mounts[i]? = some m' :=
        ⟨_, List.getElem?_eq_getElem (by omega)⟩
      have hmem : Moment.telling i name payload ∈ journal.drop k := by
        refine List.mem_of_getElem? (i := l - k) ?_
        rw [List.getElem?_drop, show k + (l - k) = l by omega]
        exact htelling
      have huntold := (hkept.now.each i m' hm').untold k m ⟨s, hs, hm⟩ hmounted _ hmem
      simp [Moment.tells] at huntold
    · intro l s' hl hs'
      by_cases hkl : k = l
      · subst hkl
        obtain rfl : s = s' := Moment.seeing.inj (Option.some.inj (hs.symm.trans hs'))
        refine ⟨m, hm, hmounted, ?_⟩
        rw [List.drop_eq_nil_of_le (by rw [List.length_take]; omega)]
        rfl
      · have hseen := hkept.seen l s' hs'
        have hs₀ : (journal.take l)[k]? = some (.seeing s) := by
          rw [List.getElem?_take, if_pos (by omega)]
          exact hs
        have hbelow : s.mounts.length ≤ s'.mounts.length :=
          hseen.below _ (List.mem_of_getElem? hs₀)
        obtain ⟨m', hm'⟩ : ∃ m', s'.mounts[i]? = some m' :=
          ⟨_, List.getElem?_eq_getElem (by omega)⟩
        obtain ⟨hdown, hcount⟩ := (hseen.each i m' hm').down k m ⟨s, hs₀, hm⟩ hmounted
        exact ⟨m', hm', hdown, hcount⟩
    · rintro j hj ⟨s₀, hs₀, hup⟩ hrenders
      have hjk : j ≠ k := by
        rintro rfl
        obtain rfl : s = s₀ := Moment.seeing.inj (Option.some.inj (hs.symm.trans hs₀))
        rw [hup m hm] at hmounted
        cases hmounted
      have hs₀' : (journal.take k)[j]? = some (.seeing s₀) := by
        rw [List.getElem?_take, if_pos (by omega)]
        exact hs₀
      refine ((hkept.seen k s hs).each i m hm).blank hmounted j ⟨s₀, hs₀', hup⟩ ?_
      intro e he
      cases e with
      | rendering r =>
        refine beq_false_of_ne ?_
        rintro rfl
        exact hrenders he
      | _ => rfl

/-- A host that takes a mount down as soon as it is told of an event of it. -/
def quittingHost : Host Unit where
  mountId _ := "m"
  onEvent := some fun i _ _ _ => .ask (.stop i) fun _ _ => .done
  onChange _ _ _ _ := .done

/-- Mounts a button, has it pressed, and runs its handler once more by itself. -/
def quittingCode (_ : Session Unit) : Code Unit :=
  let press : EventDescriptor :=
    ⟨none, some (Dict.ofList [("pressed", .const (.bool true))]), some "pressed", none⟩
  let button : Node := ⟨"button", ∅, .empty, Dict.ofList [("onClick", press)], ∅⟩
  .ask (.mount (.node button)) fun _ _ => .ask (.invoke 0 (.text "onClick") {}) fun _ _ =>
    .ask (.runHandler 0 (.described press) {}) fun _ _ => .done

/-- The mount goes down while its handler runs, and the handler runs again: one telling. -/
theorem silent_once_down_quitting :
    let journal := (Recorded.run quittingHost 8 () quittingCode).2.journal
    ∃ m, FoundUp journal 5 0 ∧ Found journal 6 0 m ∧ m.mounted = false ∧ m.view = .nothing ∧
      m.callbacks = ∅ ∧ (∃ changes, journal[8]? = some (.merging 0 changes)) ∧
      ∀ l, 6 ≤ l → ∀ name payload, journal[l]? ≠ some (.telling 0 name payload) := by
  intro journal
  obtain ⟨-, -, hsilent, -⟩ := silent_once_down quittingHost 8 () quittingCode
  have hup : FoundUp journal 5 0 := ⟨_, rfl, fun m hm => by cases hm; rfl⟩
  have hdown : Found journal 6 0 _ := ⟨_, rfl, rfl⟩
  obtain ⟨huntold, -, hblank⟩ := hsilent 6 0 _ hdown rfl
  obtain ⟨hview, hcallbacks⟩ := hblank 5 (by decide) hup (by
    have hbetween : (journal.take 6).drop 5 = [_] := rfl
    rw [hbetween, List.mem_singleton]
    exact nofun)
  exact ⟨_, hup, hdown, rfl, hview, hcallbacks, ⟨_, rfl⟩, huntold⟩

end AssistantUI.Session
