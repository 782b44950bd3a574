import AssistantUI.Event.Handler
import AssistantUI.State.Store

/-!
# Acts that do the same

To speak about the middle of a run, the run is repeated in a richer world, in which what
happens is noted, and the two runs are shown to do the same. Both are acts; a relation between
their worlds says how the richer one stands to the plain one. Whatever else the relation
demands of the richer world is then known of every world that the run comes to, so an
invariant of runs is proved in the same breath.

The relation only has to be shown for the single steps. It carries over to everything that is
put together from them: rounds of listeners, handlers and the code of hosts.
-/

namespace AssistantUI

namespace Act

variable {ω ω' α β : Type}

/-- From related worlds, both acts come to the same result and to related worlds. -/
def Simulates (R : ω → ω' → Prop) (a : Act ω α) (b : Act ω' α) : Prop :=
  ∀ w w', R w w' →
    (a.runIn w).1 = (b.runIn w').1 ∧ R (a.runIn w).2 (b.runIn w').2

/-- The second of two acts is done in the world that the first leaves, unless the first fails. -/
theorem runIn_bind (a : Act ω α) (f : α → Act ω β) (w : ω) :
    (a >>= f).runIn w =
      match a.runIn w with
      | (.ok x, w') => (f x).runIn w'
      | (.error e, w') => (.error e, w') := by
  show (ExceptT.bind a f : ω → Except Fault β × ω) w = _
  unfold ExceptT.bind ExceptT.mk runIn
  show (let p := a w; ExceptT.bindCont f p.1 p.2) = _
  cases a w with
  | mk r w' =>
    cases r with
    | ok x => rfl
    | error e => rfl

/-- What succeeds in two steps succeeds in either. -/
theorem of_runIn_bind_ok {a : Act ω α} {f : α → Act ω β} {b : β} {w w' : ω}
    (h : (a >>= f).runIn w = (.ok b, w')) :
    ∃ x w₁, a.runIn w = (.ok x, w₁) ∧ (f x).runIn w₁ = (.ok b, w') := by
  rw [runIn_bind] at h
  cases ha : a.runIn w with
  | mk r w₁ =>
    rw [ha] at h
    cases r with
    | ok x => exact ⟨x, w₁, rfl, h⟩
    | error e => cases h

theorem runIn_lift (x : Except Fault α) (w : ω) : (liftM x : Act ω α).runIn w = (x, w) := by
  cases x with
  | ok a => rfl
  | error e => rfl

theorem runIn_return (f : α → β) (a : Act ω α) (w : ω) :
    (do return f (← a) : Act ω β).runIn w = ((a.runIn w).1.map f, (a.runIn w).2) := by
  rw [runIn_bind]
  cases a.runIn w with
  | mk r w' => cases r <;> rfl

namespace Simulates

variable {R : ω → ω' → Prop}

theorem pure (x : α) : Simulates R (Pure.pure x) (Pure.pure x) := fun _ _ h => ⟨rfl, h⟩

theorem throw (f : Fault) : Simulates R (throwThe Fault f : Act ω α) (throwThe Fault f) :=
  fun _ _ h => ⟨rfl, h⟩

theorem bind {a : Act ω α} {b : Act ω' α} {f : α → Act ω β} {g : α → Act ω' β}
    (h : Simulates R a b) (hfg : ∀ x, Simulates R (f x) (g x)) :
    Simulates R (a >>= f) (b >>= g) := by
  intro w w' hw
  obtain ⟨hr, hR⟩ := h w w' hw
  rw [runIn_bind, runIn_bind]
  generalize a.runIn w = p at hr hR ⊢
  generalize b.runIn w' = p' at hr hR ⊢
  obtain ⟨r, v⟩ := p
  obtain ⟨r', v'⟩ := p'
  cases hr
  -- both go on, or both end here
  cases r with
  | ok x => exact hfg x v v' hR
  | error e => exact ⟨rfl, hR⟩

theorem ite {c : Prop} [Decidable c] {a a' : Act ω α} {b b' : Act ω' α}
    (h : c → Simulates R a b) (h' : ¬c → Simulates R a' b') :
    Simulates R (if c then a else a') (if c then b else b') := by
  by_cases hc : c
  · rw [if_pos hc, if_pos hc]
    exact h hc
  · rw [if_neg hc, if_neg hc]
    exact h' hc

end Simulates

end Act

/-- A round of listeners does the same if each listener does. -/
theorem Store.notify_simulates {ω ω' κ : Type} {R : ω → ω' → Prop}
    {call : κ → State → Act ω Unit} {call' : κ → State → Act ω' Unit} {changes : State}
    {listeners : List κ}
    (h : ∀ l ∈ listeners, Act.Simulates R (call l changes) (call' l changes)) :
    Act.Simulates R (notify call changes listeners) (notify call' changes listeners) := by
  induction listeners with
  | nil => exact .pure ()
  | cons l rest ih =>
    refine Act.Simulates.bind (h l List.mem_cons_self) fun _ => ?_
    exact ih fun k hk => h k (List.mem_cons_of_mem l hk)

/-- After a listener that does not fail, the round goes on with the next one. -/
theorem Store.runIn_notify_cons {ω κ : Type} {call : κ → State → Act ω Unit} {changes : State}
    {l : κ} {rest : List κ} {w w' : ω} (h : (call l changes).runIn w = (.ok (), w')) :
    (notify call changes (l :: rest)).runIn w = (notify call changes rest).runIn w' := by
  rw [notify, Act.runIn_bind, h]

/-- A merge does the same if the round of listeners that it leads to does. -/
theorem Store.merge_simulates {ω ω' κ : Type} {R : ω → ω' → Prop}
    {get : ω → Store κ} {set : ω → Store κ → ω} {call : κ → State → Act ω Unit}
    {get' : ω' → Store κ} {set' : ω' → Store κ → ω'} {call' : κ → State → Act ω' Unit}
    {changes : State}
    (h : ∀ w w', R w w' → changes.isEmpty = false →
      let p := (notify call changes (get w).listeners).runIn (set w ((get w).write changes))
      let p' := (notify call' changes (get' w').listeners).runIn (set' w' ((get' w').write changes))
      p.1 = p'.1 ∧ R p.2 p'.2) :
    Act.Simulates R (merge get set call changes) (merge get' set' call' changes) := by
  intro w w' hw
  unfold merge Act.runIn
  by_cases he : changes.isEmpty = true
  · simp only [if_pos he]
    exact ⟨trivial, hw⟩
  · simp only [if_neg he]
    exact h w w' hw (Bool.eq_false_iff.mpr he)

/-! ## Handlers -/

/-- What a handler tells the host in the end, under a name: something made of the state then. -/
def Handler.tells : Handler → Option (String × (State → Payload))
  | described d => d.emits.map fun name => (name, d.payload)
  | fieldChange _ => none
  | formSubmit => some ("submit", State.payload)

/-- Tells the host, if there is one, something that is made of the present state. -/
def Surroundings.tell {m : Type → Type} [Monad m] (s : Surroundings m) (name : String)
    (payload : State → Payload) : m Unit :=
  match s.emit with
  | some emit => do emit name (payload (← s.snapshot))
  | none => return ()

namespace Handler

/-- Does the handler suppress the default action? -/
def suppresses : Handler → Bool
  | described d => d.suppresses
  | fieldChange _ => false
  | formSubmit => true

/-- What the handler merges into the state. -/
def changes (t : Trigger) : Handler → State
  | described d => d.changes t
  | fieldChange name => Dict.ofList [(.text name, t.value)]
  | formSubmit => ∅

/-- The trigger once the handler has suppressed the default action, if it does so. -/
def mark (h : Handler) (t : Trigger) : Trigger :=
  { t with prevented := t.prevented || h.suppresses }

/-- The last thing that the handler does: it tells the host, if it has anything to tell. -/
def tellIn {m : Type → Type} [Monad m] (s : Surroundings m) (h : Handler) : m Unit :=
  match h.tells with
  | some (name, payload) => s.tell name payload
  | none => return ()

/-- What the handler does after it has suppressed the default action. -/
def goOn {m : Type → Type} [Monad m] (s : Surroundings m) (t : Trigger) (h : Handler) : m Unit := do
  unless (h.changes t).isEmpty do s.merge (h.changes t)
  h.tellIn s

/-- **Handlers of all kinds run alike**: they suppress, merge and tell, in this order. -/
theorem run_eq {m : Type → Type} [Monad m] [LawfulMonad m] (s : Surroundings m) (t : Trigger)
    (h : Handler) :
    h.run s t = if h.suppresses then s.prevent >>= fun _ => h.goOn s t else h.goOn s t := by
  cases h with
  | fieldChange name =>
    have hgoOn : (fieldChange name).goOn s t =
        (do s.merge (Dict.ofList [(.text name, t.value)]); pure ()) := rfl
    rw [hgoOn]
    simp [run, suppresses]
  | formSubmit =>
    have hgoOn : formSubmit.goOn s t = s.tell "submit" State.payload := rfl
    rw [hgoOn]
    rfl
  | described d =>
    have htells : (described d).tells = d.emits.map fun name => (name, d.payload) := rfl
    unfold run goOn tellIn Surroundings.tell
    dsimp only [suppresses, changes]
    rw [htells]
    -- either of the first steps may be left out, and there may be nothing to tell, or nobody
    cases d.emits with
    | none => simp
    | some name =>
      cases s.emit with
      | none => simp
      | some emit =>
        by_cases hsuppresses : d.suppresses = true <;>
          by_cases hchanges : (d.changes t).isEmpty = true <;> simp [hsuppresses, hchanges]

end Handler

section

variable {ω ω' : Type} {R : ω → ω' → Prop} {s : Surroundings (Act ω)} {s' : Surroundings (Act ω')}

theorem Handler.goOn_simulates
    (hmerge : ∀ changes, Act.Simulates R (s.merge changes) (s'.merge changes)) (handler : Handler)
    (htell : ∀ name payload, handler.tells = some (name, payload) →
      Act.Simulates R (s.tell name payload) (s'.tell name payload)) (t : Trigger) :
    Act.Simulates R (handler.goOn s t) (handler.goOn s' t) := by
  have hlast : Act.Simulates R (handler.tellIn s) (handler.tellIn s') := by
    unfold tellIn
    cases htells : handler.tells with
    | none => exact .pure ()
    | some told => exact htell told.1 told.2 htells
  exact .ite (fun _ => hlast) fun _ => (hmerge _).bind fun _ => hlast

/-- A handler does the same if its steps do, of which telling the host is the last. -/
theorem Handler.run_simulates_of_steps (hprevent : Act.Simulates R s.prevent s'.prevent)
    (hmerge : ∀ changes, Act.Simulates R (s.merge changes) (s'.merge changes)) (handler : Handler)
    (htell : ∀ name payload, handler.tells = some (name, payload) →
      Act.Simulates R (s.tell name payload) (s'.tell name payload)) (t : Trigger) :
    Act.Simulates R (handler.run s t) (handler.run s' t) := by
  have hgoOn := handler.goOn_simulates hmerge htell t
  rw [run_eq, run_eq]
  exact .ite (fun _ => hprevent.bind fun _ => hgoOn) fun _ => hgoOn

/-- What a handler acts on does the same. -/
structure Surroundings.Simulates (R : ω → ω' → Prop)
    (s : Surroundings (Act ω)) (s' : Surroundings (Act ω')) : Prop where
  prevent : Act.Simulates R s.prevent s'.prevent
  merge : ∀ changes, Act.Simulates R (s.merge changes) (s'.merge changes)
  snapshot : Act.Simulates R s.snapshot s'.snapshot
  /-- There is a host to be told in both, or in neither. -/
  emit : Option.Rel (fun e e' => ∀ name payload, Act.Simulates R (e name payload) (e' name payload))
    s.emit s'.emit

theorem Surroundings.Simulates.tell (h : s.Simulates R s') (name : String)
    (payload : State → Payload) : Act.Simulates R (s.tell name payload) (s'.tell name payload) := by
  have hemit := h.emit
  unfold Surroundings.tell
  generalize s.emit = emit at hemit ⊢
  generalize s'.emit = emit' at hemit ⊢
  cases hemit with
  | none => exact .pure ()
  | some he => exact h.snapshot.bind fun state => he _ _

theorem Handler.run_simulates (h : s.Simulates R s') (t : Trigger) (handler : Handler) :
    Act.Simulates R (handler.run s t) (handler.run s' t) :=
  run_simulates_of_steps h.prevent h.merge handler (fun name payload _ => h.tell name payload) t

end

end AssistantUI
