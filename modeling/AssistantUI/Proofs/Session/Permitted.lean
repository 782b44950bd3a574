import AssistantUI.Proofs.Session.Invariant

/-!
# Host code that keeps to what is permitted

Some invariants do not survive host code of any kind. Nobody takes a handler from one mount and has
it run by another, and a host that keeps its memory in order does not want others to write into it.
What may be asked for is then said by a predicate on operations, which may look at the session in
which an operation is asked for; `Code.KeepsTo` says it of code, however it is answered.

The session that code finds when it goes on is not any session. Mounts are never forgotten and keep
their definitions (`Grows`), and only such sessions have to be considered. The main result is
`Undisturbed.perform_simulates`: if the host keeps to what is permitted when it listens and when
it is told of events, then a permitted operation keeps the invariant, however deeply calls nest.
-/

namespace AssistantUI.Session

variable {σ : Type}

/-! ## Sessions that go on -/

/-- Every mount is still there, with the definition that it had. -/
def Grows (s s' : Session σ) : Prop :=
  ∀ (i : Nat) (m : Mount), s.mounts[i]? = some m →
    ∃ m', s'.mounts[i]? = some m' ∧ m'.definition = m.definition

namespace Grows

variable {s s' s'' : Session σ}

theorem refl (s : Session σ) : s.Grows s := Keeps.refl s

theorem trans (h : s.Grows s') (h' : s'.Grows s'') : s.Grows s'' := Keeps.trans h h'

theorem of_face (h : s'.mounts.map Mount.face = s.mounts.map Mount.face) : s.Grows s' :=
  Keeps.of_face (fun _ => rfl) h

theorem update (s : Session σ) (i : Nat) {f : Mount → Mount}
    (hf : ∀ m, (f m).definition = m.definition) : s.Grows (s.update i f) :=
  Keeps.update s i fun m _ => hf m

theorem start (s : Session σ) (m : Mount) : s.Grows (s.start m) := Keeps.start s m

end Grows

theorem definition_stop (m : Mount) : m.stop.definition = m.definition := by
  unfold Mount.stop
  split <;> rfl

theorem definition_merge (m : Mount) (changes : State) :
    (m.merge changes).definition = m.definition := by
  unfold Mount.merge Mount.rerender
  split <;> rfl

theorem Grows.unmount (s : Session σ) : s.Grows s.unmount := Keeps.unmount s definition_stop

/-- What is undisturbed stays so when it is added from where the session has grown. -/
theorem Undisturbed.growing {Inv : Recorded σ → Prop} (h : Undisturbed Inv) (base : Session σ) :
    Undisturbed fun r => Inv r ∧ base.Grows r.session where
  seeing hinv := ⟨h.seeing hinv.1, hinv.2⟩
  hidden hinv hcurrent hhost hface :=
    ⟨h.hidden hinv.1 hcurrent hhost hface, hinv.2.trans (.of_face hface)⟩
  stop i hinv := ⟨h.stop i hinv.1, hinv.2.trans (.update _ i definition_stop)⟩
  unmount hinv := ⟨h.unmount hinv.1, hinv.2.trans (.unmount _)⟩
  start id definition issues hinv hcurrent :=
    ⟨h.start id definition issues hinv.1 hcurrent, hinv.2.trans (.start _ _)⟩
  render hinv hm := ⟨h.render hinv.1 hm, hinv.2.trans (.update _ _ fun _ => rfl)⟩
  merge hinv hm hchanges := ⟨h.merge hinv.1 hm hchanges,
    hinv.2.trans (.update _ _ fun m => definition_merge m _)⟩

/-- The memory of the host is the host's own. -/
theorem undisturbed_host (P : σ → Prop) : Undisturbed fun r : Recorded σ => P r.session.host where
  seeing h := h
  hidden h _ hhost _ := hhost ▸ h
  stop _ h := h
  unmount h := (host_unmount _).symm ▸ h
  start _ _ _ h _ := h
  render h _ := h
  merge h _ _ := h

/-! ## Permitted operations -/

/--
Code asks for nothing but what is permitted, however it is answered, as long as it `finds` sessions
as they should be.
-/
def Code.KeepsTo (finds : Session σ → Prop) (permits : Session σ → Op σ → Prop) :
    Code σ → Session σ → Prop
  | .done, _ | .raise _, _ => True
  | .ask op next, s => permits s op ∧ ∀ answer s', s.Grows s' → finds s' →
      KeepsTo finds permits (next answer s') s'

section

variable (Inv : Recorded σ → Prop) (permits : Session σ → Op σ → Prop)

/-- Permitted operations do the same, recorded and unrecorded, and keep the invariant. -/
def Permitted (perform : Op σ → Act (Recorded σ) Reply) (perform' : Op σ → Act (Session σ) Reply) :
    Prop :=
  ∀ op r s, Coupled Inv r s → permits s op →
    ((perform op).runIn r).1 = ((perform' op).runIn s).1 ∧
      Coupled (fun q => Inv q ∧ s.Grows q.session) ((perform op).runIn r).2
        ((perform' op).runIn s).2

end

/-- What always fails is harmless. -/
theorem Permitted.throw {Inv : Recorded σ → Prop} {permits : Session σ → Op σ → Prop} (f : Fault) :
    Permitted Inv permits (fun _ => throw f) (fun _ => throw f) := by
  rintro op r _ ⟨rfl, hheard, hinv⟩ -
  exact ⟨rfl, rfl, hheard, hinv, .refl _⟩

section

variable {Inv : Recorded σ → Prop} {finds : Session σ → Prop}
  {permits : Session σ → Op σ → Prop} (h : Undisturbed Inv) (hfinds : ∀ r, Inv r → finds r.session)
  {perform : Op σ → Act (Recorded σ) Reply} {perform' : Op σ → Act (Session σ) Reply}
  (hperform : Permitted Inv permits perform perform')
include h hfinds hperform

theorem Permitted.runCode_simulates (base : Session σ) (code : Code σ) {r : Recorded σ}
    {s : Session σ} (hr : Coupled (fun q => Inv q ∧ base.Grows q.session) r s)
    (hcode : code.KeepsTo finds permits s) :
    ((Recorded.runCode perform code).runIn r).1 = ((code.run perform').runIn s).1 ∧
      Coupled (fun q => Inv q ∧ base.Grows q.session) ((Recorded.runCode perform code).runIn r).2
        ((code.run perform').runIn s).2 := by
  induction code generalizing r s with
  | done => exact ⟨rfl, hr⟩
  | raise f => exact ⟨rfl, hr⟩
  | ask op next ih =>
    obtain ⟨rfl, hheard, hinv, hgrows⟩ := hr
    obtain ⟨hop, hnext⟩ := hcode
    obtain ⟨hanswer, hsame, hheard', hinv', hgrows'⟩ :=
      hperform op r r.session ⟨rfl, hheard, hinv⟩ hop
    have hseen : Coupled (fun q => Inv q ∧ base.Grows q.session) ((perform op).runIn r).2.see
        ((perform' op).runIn r.session).2 :=
      ⟨hsame, hheard', h.seeing hinv', hgrows.trans hgrows'⟩
    dsimp only [Recorded.runCode, Script.run, Act.runIn] at hanswer hsame hgrows' hseen ⊢
    have hfound := hfinds _ hinv'
    dsimp only [Act.runIn] at hfound
    rw [hsame] at hgrows' hfound
    rw [hanswer, hsame]
    exact ih _ _ hseen (hnext _ _ hgrows' hfound)

theorem Permitted.call_simulates (base : Session σ) {code : Session σ → Code σ}
    (hcode : ∀ s, base.Grows s → finds s → (code s).KeepsTo finds permits s) :
    Act.Simulates (Coupled fun q => Inv q ∧ base.Grows q.session) (Recorded.call perform code)
      (fun s => (code s).run perform' s) := by
  rintro r _ ⟨rfl, hheard, hinv, hgrows⟩
  exact hperform.runCode_simulates h hfinds base (code r.session)
    ⟨rfl, hheard, h.seeing hinv, hgrows⟩ (hcode _ hgrows (hfinds r hinv))

end

/-- **What is permitted keeps the invariant**, if the host listens and is told within it. -/
theorem Undisturbed.perform_simulates {Inv : Recorded σ → Prop} {finds : Session σ → Prop}
    {permits : Session σ → Op σ → Prop} (h : Undisturbed Inv)
    (hfinds : ∀ r, Inv r → finds r.session) (host : Host σ)
    (hlisten : ∀ i number changes s, finds s →
      (host.onChange i number changes s).KeepsTo finds permits s)
    (hremember : ∀ r memory, Inv r → permits r.session (.remember memory) →
      Inv { r with session := { r.session with host := memory } })
    (htell : ∀ depth, Permitted Inv permits (Recorded.perform host depth) (perform host depth) →
      ∀ r op i handler, Inv r → permits r.session op → op.Runs r.session i handler →
        TellsAlike (fun q => Inv q ∧ r.session.Grows q.session) host
          (Recorded.call (Recorded.perform host depth))
          (fun code s => (code s).run (perform host depth) s) i handler)
    (depth : Nat) :
    Permitted Inv permits (Recorded.perform host depth) (perform host depth) := by
  induction depth with
  | zero => exact Permitted.throw _
  | succ depth ih =>
    rintro op r _ ⟨rfl, hheard, hinv⟩ hop
    -- from here on the session only grows
    have hr : Coupled (fun q => Inv q ∧ r.session.Grows q.session) r r.session :=
      ⟨rfl, hheard, hinv, .refl _⟩
    have hlistens : ListensAlike (fun q => Inv q ∧ r.session.Grows q.session) host
        (Recorded.call (Recorded.perform host depth))
        (fun code s => (code s).run (perform host depth) s) :=
      fun i number changes => ih.call_simulates h hfinds r.session
        fun s _ hs => hlisten i number changes s hs
    refine (h.growing r.session).performWith_simulates hlistens
      (fun i handler hruns => htell depth ih r op i handler hinv hop hruns) ?_ hr
    rintro memory rfl
    exact ⟨hremember r memory hinv hop, .of_face rfl⟩

end AssistantUI.Session
