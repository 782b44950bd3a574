import AssistantUI.Proofs.Session.Invariant

/-!
# What is shown is never out of date

Between writing changes and rendering, a mount shows the state as it was. Nobody can see it:
the mount is the first to hear of a change, and nothing else runs before it has rendered. So
wherever host code runs, in a listener in the middle of a round, in the callback for events,
after a merge that another listener cut short by failing, it finds every mounted definition
rendered in the present state.

The same argument counts the renderings. Each merge that begins leads to one, each request
to render to one more, and the first was when the mount was made.
-/

namespace AssistantUI.Session

variable {σ : Type}

namespace Moment

/-- Does a merge into the state of a mount begin here? -/
def merges (i : Nat) : Moment σ → Bool
  | merging j _ => j == i
  | _ => false

/-- Is a mount rendered on demand here? -/
def renders (i : Nat) : Moment σ → Bool
  | rendering j => j == i
  | _ => false

/-- Is it the making, a merge or a rendering of a mount? -/
def alters (i : Nat) : Moment σ → Bool
  | mounting j _ => j == i
  | merging j _ => j == i
  | rendering j => j == i
  | telling .. => false
  | seeing _ => false

theorem merges_of_not_alters {i : Nat} {e : Moment σ} (h : e.alters i = false) :
    e.merges i = false := by
  cases e with
  | merging j changes => exact h
  | _ => rfl

theorem renders_of_not_alters {i : Nat} {e : Moment σ} (h : e.alters i = false) :
    e.renders i = false := by
  cases e with
  | rendering j => exact h
  | _ => rfl

theorem ne_mounting_of_not_alters {i : Nat} {e : Moment σ} (h : e.alters i = false)
    (d : Option Definition) : e ≠ mounting i d := by
  rintro rfl
  simp [alters] at h

end Moment

/-- A mount shows what it should, given what happened so far. -/
structure UpToDate (i : Nat) (journal : List (Moment σ)) (m : Mount) : Prop where
  /-- It is made of the definition that it was mounted with. -/
  made : ∀ d, .mounting i d ∈ journal ↔ d = m.definition
  view : m.mounted = true → m.view = Definition.render? m.store.values m.definition
  callbacks : m.mounted = true → m.callbacks = Definition.callbacks? m.store.values m.definition
  count : m.mounted = true → m.renderCount =
    1 + journal.countP (Moment.merges i) + journal.countP (Moment.renders i)

namespace UpToDate

variable {i : Nat} {journal : List (Moment σ)} {m : Mount}

/-- What nobody is shown does not matter. -/
theorem of_face (h : UpToDate i journal m) {m' : Mount} (hface : m'.face = m.face) :
    UpToDate i journal m' := by
  have hdefinition := Mount.eq_of_face Mount.definition (fun _ => rfl) hface
  have hvalues := Mount.eq_of_face (fun k => k.store.values) (fun _ => rfl) hface
  have hview := Mount.eq_of_face Mount.view (fun _ => rfl) hface
  have hcallbacks := Mount.eq_of_face Mount.callbacks (fun _ => rfl) hface
  have hcount := Mount.eq_of_face Mount.renderCount (fun _ => rfl) hface
  have hmounted := Mount.eq_of_face Mount.mounted (fun _ => rfl) hface
  refine ⟨?_, ?_, ?_, ?_⟩
  · rw [hdefinition]
    exact h.made
  · rw [hmounted, hview, hvalues, hdefinition]
    exact h.view
  · rw [hmounted, hcallbacks, hvalues, hdefinition]
    exact h.callbacks
  · rw [hmounted, hcount]
    exact h.count

theorem mem_mounting_append {d : Option Definition} {e : Moment σ}
    (he : ∀ d, e ≠ .mounting i d) :
    .mounting i d ∈ journal ++ [e] ↔ .mounting i d ∈ journal := by
  rw [List.mem_append, List.mem_singleton]
  exact ⟨fun h => h.resolve_right fun heq => he d heq.symm, Or.inl⟩

/-- A line that is not about the mount changes nothing for it. -/
theorem note (h : UpToDate i journal m) {e : Moment σ} (he : e.alters i = false) :
    UpToDate i (journal ++ [e]) m := by
  refine ⟨fun d => ?_, h.view, h.callbacks, fun hm => ?_⟩
  · rw [mem_mounting_append (Moment.ne_mounting_of_not_alters he)]
    exact h.made d
  · have hmerges := Moment.merges_of_not_alters he
    have hrenders := Moment.renders_of_not_alters he
    rw [h.count hm, List.countP_append, List.countP_append, List.countP_singleton,
      List.countP_singleton, hmerges, hrenders]
    rfl

/-- A mount that is taken down shows nothing that could be out of date. -/
theorem stop (h : UpToDate i journal m) : UpToDate i journal m.stop := by
  unfold Mount.stop
  by_cases hm : m.mounted = true
  · rw [if_pos hm]
    exact ⟨h.made, nofun, nofun, nofun⟩
  · rw [if_neg hm]
    exact h

theorem render (h : UpToDate i journal m) : UpToDate i (journal ++ [.rendering i]) m.render := by
  refine ⟨fun d => ?_, fun _ => rfl, fun _ => rfl, fun hm => ?_⟩
  · rw [mem_mounting_append (e := .rendering i) nofun]
    exact h.made d
  · show m.renderCount + 1 = _
    rw [h.count hm, List.countP_append, List.countP_append]
    simp [Moment.merges, Moment.renders]
    omega

theorem merge (h : UpToDate i journal m) (changes : State) :
    UpToDate i (journal ++ [.merging i changes]) (m.merge changes) := by
  have hmade : ∀ d, .mounting i d ∈ journal ++ [.merging i changes] ↔ d = m.definition := by
    intro d
    rw [mem_mounting_append (e := .merging i changes) nofun]
    exact h.made d
  by_cases hm : m.mounted = true
  · rw [Mount.merge_of_mounted hm]
    refine ⟨hmade, fun _ => rfl, fun _ => rfl, fun _ => ?_⟩
    show m.renderCount + 1 = _
    rw [h.count hm, List.countP_append, List.countP_append]
    simp [Moment.merges, Moment.renders]
    omega
  · rw [Mount.merge_of_not_mounted hm]
    exact ⟨hmade, fun hm' => absurd hm' hm, fun hm' => absurd hm' hm, fun hm' => absurd hm' hm⟩

theorem start (h : ∀ e ∈ journal, e.alters i = false) (id : String)
    (definition : Option Definition) (issues : List Issue) :
    UpToDate i (journal ++ [.mounting i definition]) (Mount.start id definition issues) := by
  refine ⟨fun d => ?_, fun _ => rfl, fun _ => rfl, fun _ => ?_⟩
  · rw [List.mem_append, List.mem_singleton]
    constructor
    · rintro (hmem | heq)
      · exact absurd rfl (Moment.ne_mounting_of_not_alters (h _ hmem) d)
      · exact (Moment.mounting.inj heq).2
    · rintro rfl
      exact Or.inr rfl
  · have hmerges : journal.countP (Moment.merges i) = 0 :=
      List.countP_eq_zero.mpr fun e he => by simp [Moment.merges_of_not_alters (h e he)]
    have hrenders : journal.countP (Moment.renders i) = 0 :=
      List.countP_eq_zero.mpr fun e he => by simp [Moment.renders_of_not_alters (h e he)]
    rw [List.countP_append, List.countP_append, hmerges, hrenders]
    rfl

end UpToDate

/-! ## The invariant -/

/-- Wherever host code ran so far, each mount showed what it should at that time. -/
def SeenUpToDate (journal : List (Moment σ)) : Prop :=
  ∀ (k : Nat) (s : Session σ), journal[k]? = some (.seeing s) →
    ∀ (i : Nat) (m : Mount), s.mounts[i]? = some m → UpToDate i (journal.take k) m

theorem SeenUpToDate.note {journal : List (Moment σ)} (h : SeenUpToDate journal) {e : Moment σ}
    (he : ∀ s, e = .seeing s → ∀ (i : Nat) (m : Mount), s.mounts[i]? = some m →
      UpToDate i journal m) :
    SeenUpToDate (journal ++ [e]) := by
  intro k s hk i m hm
  have hlt : k < (journal ++ [e]).length := by
    obtain ⟨hlt, -⟩ := List.getElem?_eq_some_iff.mp hk
    exact hlt
  rw [List.length_append, List.length_singleton] at hlt
  -- before the new line nothing is changed, and what was noted is still what was noted
  by_cases hlast : k = journal.length
  · subst hlast
    rw [List.getElem?_concat_length] at hk
    rw [List.take_left]
    exact he s (Option.some.inj hk) i m hm
  · have hbefore : k < journal.length := by omega
    rw [List.getElem?_append_left hbefore] at hk
    rw [List.take_append_of_le_length (by omega)]
    exact h k s hk i m hm

/-- Each mount shows what it should, now and wherever host code ran so far. -/
structure Fresh (mounts : List Mount) (journal : List (Moment σ)) : Prop where
  now : ∀ (i : Nat) (m : Mount), mounts[i]? = some m → UpToDate i journal m
  /-- Nothing is noted of a mount before it is made. -/
  ahead : ∀ i, mounts.length ≤ i → ∀ e ∈ journal, e.alters i = false
  seen : SeenUpToDate journal

namespace Fresh

variable {mounts : List Mount} {journal : List (Moment σ)}

/-- A line that is about no mount that changes. -/
theorem note (h : Fresh mounts journal) {e : Moment σ} (he : ∀ i, e.alters i = false)
    (hseen : ∀ s, e = .seeing s → s.mounts = mounts) : Fresh mounts (journal ++ [e]) := by
  refine ⟨fun i m hm => (h.now i m hm).note (he i), ?_, ?_⟩
  · intro i hi f hf
    rcases List.mem_append.mp hf with hf | hf
    · exact h.ahead i hi f hf
    · exact List.mem_singleton.mp hf ▸ he i
  · refine h.seen.note fun s hs i m hm => ?_
    rw [hseen s hs] at hm
    exact h.now i m hm

/-- Another mount in the place of one, without a line. -/
theorem modify (h : Fresh mounts journal) (i : Nat) {f : Mount → Mount}
    (hf : ∀ m, UpToDate i journal m → UpToDate i journal (f m)) :
    Fresh (mounts.modify i f) journal := by
  refine ⟨?_, ?_, h.seen⟩
  · intro j m hm
    rw [List.getElem?_modify] at hm
    obtain ⟨m', hm', rfl⟩ := Option.map_eq_some_iff.mp hm
    by_cases hij : i = j
    · subst hij
      rw [if_pos rfl]
      exact hf m' (h.now i m' hm')
    · rw [if_neg hij]
      exact h.now j m' hm'
  · intro j hj
    rw [List.length_modify] at hj
    exact h.ahead j hj

/-- Another mount in the place of one, with a line about it. -/
theorem modify_note (h : Fresh mounts journal) {i : Nat} {m : Mount} (hm : mounts[i]? = some m)
    {f : Mount → Mount} {e : Moment σ}
    (hf : UpToDate i journal m → UpToDate i (journal ++ [e]) (f m))
    (he : ∀ j, i ≠ j → e.alters j = false) (hseeing : ∀ s, e ≠ .seeing s) :
    Fresh (mounts.modify i f) (journal ++ [e]) := by
  refine ⟨?_, ?_, h.seen.note fun s hs => absurd hs (hseeing s)⟩
  · intro j k hk
    rw [List.getElem?_modify] at hk
    obtain ⟨k', hk', rfl⟩ := Option.map_eq_some_iff.mp hk
    by_cases hij : i = j
    · subst hij
      rw [hm] at hk'
      cases hk'
      rw [if_pos rfl]
      exact hf (h.now i m hm)
    · rw [if_neg hij]
      exact (h.now j k' hk').note (he j hij)
  · intro j hj d hd
    rw [List.length_modify] at hj
    obtain ⟨hlt, -⟩ := List.getElem?_eq_some_iff.mp hm
    rcases List.mem_append.mp hd with hd | hd
    · exact h.ahead j hj d hd
    · exact List.mem_singleton.mp hd ▸ he j (by omega)

/-- Mounts with the same faces. -/
theorem of_faces (h : Fresh mounts journal) {mounts' : List Mount}
    (hfaces : mounts'.map Mount.face = mounts.map Mount.face) : Fresh mounts' journal := by
  refine ⟨?_, ?_, h.seen⟩
  · intro i m hm
    have hface := congrArg (·[i]?) hfaces
    simp only [List.getElem?_map, hm, Option.map_some] at hface
    obtain ⟨m', hm', heq⟩ := Option.map_eq_some_iff.mp hface.symm
    exact (h.now i m' hm').of_face heq.symm
  · have hlength := congrArg List.length hfaces
    rw [List.length_map, List.length_map] at hlength
    rw [hlength]
    exact h.ahead

theorem start (h : Fresh mounts journal) (id : String) (definition : Option Definition)
    (issues : List Issue) :
    Fresh (mounts ++ [Mount.start id definition issues])
      (journal ++ [.mounting mounts.length definition]) := by
  refine ⟨?_, ?_, h.seen.note nofun⟩
  · intro i m hm
    by_cases hi : i < mounts.length
    · rw [List.getElem?_append_left hi] at hm
      refine (h.now i m hm).note ?_
      simp [Moment.alters]
      omega
    · rw [List.getElem?_append_right (by omega)] at hm
      obtain ⟨hlt, hget⟩ := List.getElem?_eq_some_iff.mp hm
      rw [List.length_singleton] at hlt
      have hlast : i = mounts.length := by omega
      subst hlast
      rw [List.getElem_singleton] at hget
      exact hget ▸ UpToDate.start (h.ahead _ (Nat.le_refl _)) id definition issues
  · intro i hi e he
    rw [List.length_append, List.length_singleton] at hi
    rcases List.mem_append.mp he with he | he
    · exact h.ahead i (by omega) e he
    · rw [List.mem_singleton.mp he]
      simp [Moment.alters]
      omega

end Fresh

/-- Every step of a session keeps what is shown up to date. -/
theorem steady_fresh : Steady fun r : Recorded σ => Fresh r.session.mounts r.journal where
  seeing h := h.note (fun _ => rfl) fun s hs => by cases hs; rfl
  telling _ _ h _ _ := h.note (fun _ => rfl) nofun
  hidden h _ hfaces := h.of_faces hfaces
  stop i h := h.modify i fun _ => UpToDate.stop
  unmount {r} h := by
    unfold unmount
    cases r.session.current with
    | none => exact h
    | some i => exact h.modify i fun _ => UpToDate.stop
  start id definition issues h _ := h.start id definition issues
  render h hm := h.modify_note hm UpToDate.render (by simp [Moment.alters]) nofun
  merge h hm _ := h.modify_note hm (fun hup => hup.merge _) (by simp [Moment.alters]) nofun

theorem fresh_new : Fresh [] ([] : List (Moment σ)) :=
  ⟨nofun, fun _ _ => nofun, nofun⟩

/-- **Wherever host code runs, every mounted definition is rendered in the present state.** That
holds after any merges, whether they are made by handlers, by listeners in the middle of
another one, or by the callback for events, and whether or not they were cut short. The mount
has been rendered once for itself, once for every merge that has begun and once for every
request. Recording what happens changes nothing of it. -/
theorem fresh_wherever_seen (host : Host σ) (depth : Nat) (memory : σ)
    (code : Session σ → Code σ) :
    let plain := ((code (.new memory)).run (perform host depth)).runIn (.new memory)
    let recorded := Recorded.run host depth memory code
    recorded.1 = plain.1 ∧ recorded.2.session = plain.2 ∧
    ∀ (k : Nat) (s : Session σ), recorded.2.journal[k]? = some (.seeing s) →
      ∀ (i : Nat) (m : Mount), s.mounts[i]? = some m →
        (∀ d, .mounting i d ∈ recorded.2.journal.take k ↔ d = m.definition) ∧
        (m.mounted = true →
          m.view = Definition.render? m.store.values m.definition ∧
          m.callbacks = Definition.callbacks? m.store.values m.definition ∧
          m.renderCount = 1 + (recorded.2.journal.take k).countP (Moment.merges i) +
            (recorded.2.journal.take k).countP (Moment.renders i)) := by
  obtain ⟨hresult, hsession, hfresh⟩ :=
    steady_fresh.run (fun _ => fresh_new) host depth memory code
  refine ⟨hresult, hsession, fun k s hk i m hm => ?_⟩
  have hup := hfresh.seen k s hk i m hm
  exact ⟨hup.made, fun hmounted => ⟨hup.view hmounted, hup.callbacks hmounted, hup.count hmounted⟩⟩

/-- A host that merges again whenever it is called, until its listener has had enough. -/
def restlessHost : Host Unit where
  mountId _ := "m"
  onEvent := some fun i _ _ _ => .ask (.merge i (.obj [("told", .bool true)])) fun _ _ => .done
  onChange i _ changes _ :=
    if changes.contains (.text "again") then .raise (.failure "enough")
    else .ask (.merge i (.obj [("again", .bool true)])) fun _ _ => .done

/-- Mounts a field, listens to it, and lets the user write into it. -/
def restlessCode (_ : Session Unit) : Code Unit :=
  let change : EventDescriptor :=
    ⟨none, some (Dict.ofList [("name", .field .value)]), some "changed", none⟩
  let field : Node :=
    ⟨"input", ∅, .empty, Dict.ofList [("onChange", change)], Dict.ofList [("value", "name")]⟩
  .ask (.mount (.node field)) fun _ _ => .ask (.subscribe 0 7) fun _ _ =>
    .ask (.invoke 0 (.text "onChange") { value := .str "x" }) fun _ _ => .done

/-- In a listener, in a merge of a listener, in a merge of the callback for events. -/
theorem fresh_wherever_seen_restless :
    ∃ s m, (Recorded.run restlessHost 8 () restlessCode).2.journal[14]? = some (.seeing s) ∧
      s.mounts[0]? = some m ∧ m.mounted = true ∧
      m.view = Definition.render? m.store.values m.definition ∧
      m.callbacks = Definition.callbacks? m.store.values m.definition ∧ m.renderCount = 5 := by
  obtain ⟨-, -, hfresh⟩ := fresh_wherever_seen restlessHost 8 () restlessCode
  refine ⟨_, _, rfl, rfl, rfl, ?_⟩
  obtain ⟨hview, hcallbacks, hcount⟩ := (hfresh 14 _ rfl 0 _ rfl).2 rfl
  exact ⟨hview, hcallbacks, hcount⟩

end AssistantUI.Session
