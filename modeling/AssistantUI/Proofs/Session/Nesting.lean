import AssistantUI.Proofs.Reporter
import AssistantUI.Proofs.Session.Interaction

/-!
# What nested code leaves

Host code is called in the middle of an operation and can ask for any other, which may call host
code in turn. Whatever it does, and however it ends, a few things can be relied on by the operation
that is under way (`Onward`). The triggers that were being handled still are, and any code that was
run found them below its own. No mount is gone. The values of a mount are what it held, with all
changes written over that were merged meanwhile, in the order in which the merges began; only if the
mount was taken down they start from nothing. No note is gone either.

`perform_records` says so of every operation, and that recording it changes nothing. Nothing is
asked of the session here, not even that mounts hear their own stores.
-/

namespace AssistantUI

/-! ## What becomes of a mount -/

namespace Reporter

/-- Notes are only added. -/
theorem diagnostics_add (r : Reporter) (i : Issue) : r.diagnostics <+: (r.add i).diagnostics := by
  rw [add_eq]
  split
  · exact List.prefix_rfl
  · exact List.prefix_append _ _

theorem diagnostics_addAll_prefix (r : Reporter) (is : List Issue) :
    r.diagnostics <+: (r.addAll is).diagnostics := by
  induction is generalizing r with
  | nil => exact List.prefix_rfl
  | cons i rest ih => exact (diagnostics_add r i).trans (ih (r.add i))

end Reporter

/--
What a mount holds after changes were merged, one after another: they are written over what it held
before, or, if it was taken down meanwhile, those that came after that are all there is.
-/
inductive Mount.Holds (merged : List State) (m m' : Mount) : Prop where
  | kept (mounted : m'.mounted = m.mounted)
      (values : m'.store.values = merged.foldl Dict.update m.store.values)
  | stopped (later : List State) (before : m.mounted = true) (after : m'.mounted = false)
      (suffix : later <:+ merged) (values : m'.store.values = later.foldl Dict.update ∅)

/-- What has become of a mount after changes were merged, one after another. -/
structure Mount.Evolves (merged : List State) (m m' : Mount) : Prop where
  holds : m.Holds merged m'
  noted : m.reporter.diagnostics <+: m'.reporter.diagnostics

namespace Mount

variable {merged later : List State} {m m' m'' : Mount}

theorem Holds.trans (h : m.Holds merged m') (h' : m'.Holds later m'') :
    m.Holds (merged ++ later) m'' := by
  cases h with
  | kept hmounted hvalues =>
    cases h' with
    | kept hmounted' hvalues' =>
      refine .kept (hmounted'.trans hmounted) ?_
      rw [hvalues', hvalues, List.foldl_append]
    | stopped last hbefore hafter hsuffix hvalues' =>
      exact .stopped last (hmounted.symm.trans hbefore) hafter
        (hsuffix.trans (List.suffix_append _ _)) hvalues'
  | stopped last hbefore hafter hsuffix hvalues =>
    cases h' with
    | kept hmounted' hvalues' =>
      refine .stopped (last ++ later) hbefore (hmounted'.trans hafter) ?_ ?_
      · obtain ⟨first, rfl⟩ := hsuffix
        exact ⟨first, (List.append_assoc ..).symm⟩
      · rw [hvalues', hvalues, List.foldl_append]
    | stopped _ hbefore' =>
      -- it is taken down once at most
      rw [hafter] at hbefore'
      cases hbefore'

theorem Evolves.trans (h : m.Evolves merged m') (h' : m'.Evolves later m'') :
    m.Evolves (merged ++ later) m'' := ⟨h.holds.trans h'.holds, h.noted.trans h'.noted⟩

theorem evolves_refl (m : Mount) : m.Evolves [] m := ⟨.kept rfl rfl, List.prefix_rfl⟩

theorem evolves_write (m : Mount) (changes : State) : m.Evolves [changes] (m.write changes) :=
  ⟨.kept rfl rfl, List.prefix_rfl⟩

theorem evolves_render (m : Mount) : m.Evolves [] m.render :=
  ⟨.kept rfl rfl, Reporter.diagnostics_addAll_prefix _ _⟩

theorem evolves_rerender (m : Mount) : m.Evolves [] m.rerender := by
  unfold rerender
  split
  · exact evolves_render m
  · exact evolves_refl m

theorem evolves_report (m : Mount) (i : Issue) : m.Evolves [] (m.report i) :=
  ⟨.kept rfl rfl, Reporter.diagnostics_add _ _⟩

theorem evolves_stop (m : Mount) : m.Evolves [] m.stop := by
  unfold stop
  by_cases hmounted : m.mounted = true
  · rw [if_pos hmounted]
    exact ⟨.stopped [] hmounted rfl List.suffix_rfl rfl, List.prefix_rfl⟩
  · rw [if_neg hmounted]
    exact evolves_refl m

end Mount

namespace Session

variable {σ α β : Type}

/-! ## From one recorded session to a later one -/

/-- What is merged into the state of a mount, in the order in which the merges begin. -/
def mergedInto (i : Nat) (lines : List (Moment σ)) : List State :=
  lines.filterMap fun
    | .merging j changes => if j = i then some changes else none
    | _ => none

theorem mergedInto_append (i : Nat) (a b : List (Moment σ)) :
    mergedInto i (a ++ b) = mergedInto i a ++ mergedInto i b := List.filterMap_append

/-- Code ran between two recorded sessions, and this was written down meanwhile. -/
structure Onward (r : Recorded σ) (lines : List (Moment σ)) (r' : Recorded σ) : Prop where
  journal : r'.journal = r.journal ++ lines
  running : r'.session.running = r.session.running
  /-- The triggers that were being handled were so wherever code was run. -/
  seen : ∀ s, .seeing s ∈ lines → r.session.running <:+ s.running
  mounts : ∀ (i : Nat) (m : Mount), r.session.mounts[i]? = some m →
    ∃ m' : Mount, r'.session.mounts[i]? = some m' ∧ m.Evolves (mergedInto i lines) m'

namespace Onward

variable {r r' r'' : Recorded σ} {lines more : List (Moment σ)}

/-- From an empty journal on, what was written down is all that the journal has. -/
theorem journal_eq {s : Session σ} (h : Onward ⟨s, []⟩ lines r) : r.journal = lines :=
  h.journal.trans (List.nil_append lines)

theorem trans (h : Onward r lines r') (h' : Onward r' more r'') :
    Onward r (lines ++ more) r'' where
  journal := by rw [h'.journal, h.journal, List.append_assoc]
  running := h'.running.trans h.running
  seen s hs := by
    rcases List.mem_append.mp hs with hs | hs
    · exact h.seen s hs
    · rw [← h.running]
      exact h'.seen s hs
  mounts i m hm := by
    obtain ⟨m', hm', hevolves⟩ := h.mounts i m hm
    obtain ⟨m'', hm'', hevolves'⟩ := h'.mounts i m' hm'
    refine ⟨m'', hm'', ?_⟩
    rw [mergedInto_append]
    exact hevolves.trans hevolves'

/-- Nothing is written down, and mounts change only as they do without a merge. -/
theorem quiet (r : Recorded σ) {s : Session σ} (hrunning : s.running = r.session.running)
    (hmounts : ∀ (i : Nat) (m : Mount), r.session.mounts[i]? = some m →
      ∃ m' : Mount, s.mounts[i]? = some m' ∧ m.Evolves [] m') :
    Onward r [] { r with session := s } where
  journal := (List.append_nil _).symm
  running := hrunning
  seen _ := nofun
  mounts := hmounts

theorem of_mounts (r : Recorded σ) {s : Session σ} (hrunning : s.running = r.session.running)
    (hmounts : s.mounts = r.session.mounts) : Onward r [] { r with session := s } :=
  quiet r hrunning fun i m hm => ⟨m, by rw [hmounts]; exact hm, m.evolves_refl⟩

theorem refl (r : Recorded σ) : Onward r [] r := of_mounts r rfl rfl

theorem update (r : Recorded σ) (i : Nat) {f : Mount → Mount}
    (hf : ∀ m : Mount, m.Evolves [] (f m)) :
    Onward r [] { r with session := r.session.update i f } := by
  refine quiet r rfl fun j m hm => ?_
  rw [get?_update, hm]
  by_cases hij : i = j
  · rw [if_pos hij]
    exact ⟨f m, rfl, hf m⟩
  · rw [if_neg hij]
    exact ⟨m, rfl, m.evolves_refl⟩

theorem unmount (r : Recorded σ) : Onward r [] { r with session := r.session.unmount } := by
  unfold Session.unmount
  cases r.session.current with
  | none => exact refl r
  | some i => exact (update r i Mount.evolves_stop).trans (of_mounts _ rfl rfl)

theorem start (r : Recorded σ) (m : Mount) :
    Onward r [] { r with session := r.session.start m } := by
  refine quiet r rfl fun i k hk => ⟨k, ?_, k.evolves_refl⟩
  rw [Session.start, List.getElem?_append_left (List.getElem?_eq_some_iff.mp hk).1, hk]

/-- A line is written about something that is no merge, and is not seen by code. -/
theorem note (r : Recorded σ) {e : Moment σ} (hseen : ∀ s, e ≠ .seeing s)
    (hmerged : ∀ i, mergedInto i [e] = []) : Onward r [e] (r.note e) where
  journal := rfl
  running := rfl
  seen s hs := absurd (List.mem_singleton.mp hs).symm (hseen s)
  mounts i m hm := by
    rw [hmerged]
    exact ⟨m, hm, m.evolves_refl⟩

theorem see (r : Recorded σ) : Onward r [.seeing r.session] r.see where
  journal := rfl
  running := rfl
  seen s hs := by
    cases List.mem_singleton.mp hs
    exact List.suffix_rfl
  mounts i m hm := ⟨m, hm, m.evolves_refl⟩

/-- Changes are written into the state of a mount. -/
theorem write (r : Recorded σ) (i : Nat) (changes : State) :
    Onward r [.merging i changes]
      ({ r with session := r.session.update i (Mount.write changes) }.note
        (.merging i changes)) where
  journal := rfl
  running := rfl
  seen s hs := by cases List.mem_singleton.mp hs
  mounts j m hm := by
    show ∃ m' : Mount, (r.session.update i (Mount.write changes)).mounts[j]? = some m' ∧ _
    rw [get?_update, hm]
    by_cases hij : i = j
    · rw [if_pos hij]
      refine ⟨m.write changes, rfl, ?_⟩
      have hmerged : mergedInto j [(.merging i changes : Moment σ)] = [changes] := by
        simp [mergedInto, hij]
      rw [hmerged]
      exact m.evolves_write changes
    · rw [if_neg hij]
      have hmerged : mergedInto j [(.merging i changes : Moment σ)] = [] := by
        simp [mergedInto, hij]
      rw [hmerged]
      exact ⟨m, rfl, m.evolves_refl⟩

/-- What happens while a trigger is handled leaves the others as they were. -/
theorem of_during {t : Trigger} (h : Onward { r with session := r.session.during t } lines r') :
    Onward r lines
      { r' with session := { r'.session with running := r'.session.running.tail } } where
  journal := h.journal
  running := by
    show r'.session.running.tail = _
    rw [h.running]
    rfl
  seen s hs := (List.suffix_cons ..).trans (h.seen s hs)
  mounts := h.mounts

end Onward

/-! ## Recorded acts -/

/-- Recorded, an act does what it does unrecorded, and goes on from where it began. -/
def Records (a : Act (Recorded σ) α) (b : Act (Session σ) α) : Prop :=
  ∀ r, (a.runIn r).1 = (b.runIn r.session).1 ∧ (a.runIn r).2.session = (b.runIn r.session).2 ∧
    ∃ lines, Onward r lines (a.runIn r).2

/-- A recorded session beside the plain one, which goes on from another. -/
structure Beside (r₀ r : Recorded σ) (s : Session σ) : Prop where
  same : r.session = s
  onward : ∃ lines, Onward r₀ lines r

theorem Beside.refl (r : Recorded σ) : Beside r r r.session := ⟨rfl, [], .refl r⟩

namespace Records

variable {a : Act (Recorded σ) α} {b : Act (Session σ) α}

theorem simulates (h : Records a b) (r₀ : Recorded σ) : Act.Simulates (Beside r₀) a b := by
  rintro r _ ⟨rfl, lines, hlines⟩
  obtain ⟨hresult, hsame, more, hmore⟩ := h r
  exact ⟨hresult, hsame, lines ++ more, hlines.trans hmore⟩

theorem of_simulates (h : ∀ r₀, Act.Simulates (Beside r₀) a b) : Records a b := by
  intro r
  obtain ⟨hresult, hsame, honward⟩ := h r r r.session (.refl r)
  exact ⟨hresult, hsame, honward⟩

theorem pure (x : α) : Records (σ := σ) (Pure.pure x) (Pure.pure x) :=
  of_simulates fun _ => .pure x

theorem throw (f : Fault) :
    Records (throwThe Fault f : Act (Recorded σ) α) (throwThe Fault f) :=
  of_simulates fun _ => .throw f

/-- What is done quietly has to go on from where it began. -/
theorem quietly (b : Act (Session σ) α)
    (h : ∀ r, Onward r [] { r with session := (b.runIn r.session).2 }) :
    Records (Recorded.quietly b) b := fun r => ⟨rfl, rfl, [], h r⟩

end Records

/-! ## Recorded operations -/

section

variable (host : Host σ) {call : (Session σ → Code σ) → Act (Recorded σ) Unit}
  {call' : (Session σ → Code σ) → Act (Session σ) Unit}
  (hcall : ∀ code, Records (call code) (call' code))
include hcall

theorem listen_records (i : Nat) (listener : Listener) (changes : State) :
    Records (Recorded.listen host call i listener changes)
      (listen host call' i listener changes) := by
  cases listener with
  | host number => exact hcall _
  | rerender =>
    intro r
    exact ⟨rfl, rfl, [], .update r i Mount.evolves_rerender⟩

omit hcall in
/-- Whatever mount is there, its state is written into. -/
theorem update_store (s : Session σ) (i : Nat) (changes : State) :
    (s.update i fun m => { m with store := (store i s).write changes }) =
      s.update i (Mount.write changes) := by
  refine update_congr fun m hm => ?_
  have hstore : store i s = m.store := store_of_get hm
  rw [hstore]
  rfl

omit hcall in
theorem Beside.write {r₀ r : Recorded σ} {s : Session σ} (h : Beside r₀ r s) (i : Nat)
    (changes : State) :
    Beside r₀ ({ r with session := r.session.update i (Mount.write changes) }.noteOf i
      (.merging i changes)) (s.update i (Mount.write changes)) := by
  obtain ⟨rfl, lines, hlines⟩ := h
  cases hm : r.session.mounts[i]? with
  | none =>
    rw [update_of_none hm, Recorded.noteOf_none hm]
    exact ⟨rfl, lines, hlines⟩
  | some m =>
    rw [Recorded.noteOf_some (get?_update_self hm _)]
    exact ⟨rfl, _, hlines.trans (.write r i changes)⟩

theorem mergeState_records (i : Nat) (changes : State) :
    Records (Recorded.mergeState host call i changes) (mergeState host call' i changes) := by
  refine .of_simulates fun r₀ => Store.merge_simulates ?_
  rintro r _ hbeside -
  obtain rfl := hbeside.same
  have hwritten := hbeside.write i changes
  rw [← update_store] at hwritten
  exact Store.notify_simulates
    (fun l _ => (listen_records host hcall i l changes).simulates r₀) _ _ hwritten

theorem emit_records (i : Nat) (name : String) (payload : Payload) :
    Records (Recorded.emit host call i name payload) (emit host call' i name payload) := by
  intro r
  dsimp only [Recorded.emit, emit, Act.runIn]
  cases host.onEvent with
  | none => exact ⟨rfl, rfl, [], .refl r⟩
  | some onEvent =>
    cases r.session.mounts[i]? with
    | none => exact ⟨rfl, rfl, [], .refl r⟩
    | some m =>
      dsimp only
      by_cases hmounted : m.mounted = true
      · rw [if_pos hmounted, if_pos hmounted]
        obtain ⟨hresult, hsame, lines, hlines⟩ :=
          hcall (onEvent i name payload) (r.note (.telling i name payload))
        have htelling := Onward.note r (e := .telling i name payload) nofun fun _ => rfl
        exact ⟨hresult, hsame, _, htelling.trans hlines⟩
      · rw [if_neg hmounted, if_neg hmounted]
        exact ⟨rfl, rfl, [], .refl r⟩

theorem goOn_records (i : Nat) (handler : Handler) (t : Trigger) :
    Records (handler.goOn (Recorded.surroundings host call i) t)
      (handler.goOn (surroundings host call' i) t) := by
  have hsnapshot : Records (Recorded.surroundings host call i).snapshot
      (surroundings host call' i).snapshot := .quietly _ .refl
  refine .of_simulates fun r₀ => handler.goOn_simulates
    (fun changes => (mergeState_records host hcall i changes).simulates r₀)
    (fun name payload _ => ?_) t
  exact (hsnapshot.simulates r₀).bind fun state => (emit_records host hcall i name _).simulates r₀

omit hcall in
/-- A handler goes on under its trigger, which it has marked by then. -/
theorem runIn_run (acts : Surroundings (Act (Session σ))) (hprevent : acts.prevent = preventDefault)
    (handler : Handler) (t : Trigger) (s : Session σ) :
    (handler.run acts t).runIn (s.during t) =
      (handler.goOn acts t).runIn (s.during (handler.mark t)) := by
  unfold Handler.mark
  rw [Handler.run_eq, hprevent]
  cases handler.suppresses with
  | true => rw [if_pos rfl, Act.runIn_bind, Bool.or_true]; rfl
  | false => rw [if_neg Bool.false_ne_true, Bool.or_false]

omit hcall in
theorem runHandler_eq (i : Nat) (handler : Handler) (t : Trigger) (s : Session σ) :
    runHandler host call' i handler t s =
      let p := (handler.goOn (surroundings host call' i) t).runIn (s.during (handler.mark t))
      (p.1, p.2.running.headD t, { p.2 with running := p.2.running.tail }) := by
  have hrun := runIn_run (surroundings host call' i) rfl handler t s
  dsimp only
  rw [← hrun]
  rfl

omit hcall in
theorem Recorded.runHandler_eq (i : Nat) (handler : Handler) (t : Trigger) (r : Recorded σ) :
    Recorded.runHandler host call i handler t r =
      let p := (handler.goOn (Recorded.surroundings host call i) t).runIn
        { r with session := r.session.during (handler.mark t) }
      (p.1, p.2.session.running.headD t,
        { p.2 with session := { p.2.session with running := p.2.session.running.tail } }) := by
  unfold Recorded.runHandler Handler.mark
  rw [Handler.run_eq]
  cases handler.suppresses with
  | true => rw [if_pos rfl, Act.runIn_bind, Bool.or_true]; rfl
  | false => rw [if_neg Bool.false_ne_true, Bool.or_false]; rfl

theorem runHandler_records (i : Nat) (handler : Handler) (t : Trigger) (r : Recorded σ) :
    let p := Recorded.runHandler host call i handler t r
    let q := runHandler host call' i handler t r.session
    p.1 = q.1 ∧ p.2.1 = q.2.1 ∧ p.2.2.session = q.2.2 ∧ ∃ lines, Onward r lines p.2.2 := by
  intro p q
  obtain ⟨hresult, hsame, lines, hlines⟩ := goOn_records host hcall i handler t
    { r with session := r.session.during (handler.mark t) }
  have hp : p = _ := Recorded.runHandler_eq host i handler t r
  have hq : q = _ := runHandler_eq host i handler t r.session
  rw [hp, hq]
  refine ⟨hresult, ?_, ?_, lines, hlines.of_during⟩
  · exact congrArg (fun s : Session σ => s.running.headD t) hsame
  · exact congrArg (fun s : Session σ => { s with running := s.running.tail }) hsame

theorem invoke_records (i : Nat) (key : Key) (t : Trigger) (r : Recorded σ) :
    let p := Recorded.invoke host call i key t r
    let q := invoke host call' i key t r.session
    p.1 = q.1 ∧ p.2.session = q.2 ∧ ∃ lines, Onward r lines p.2 := by
  dsimp only [Recorded.invoke, invoke]
  cases (r.session.mounts[i]?).bind fun m => m.callbacks.at? key with
  | none => exact ⟨rfl, rfl, [], .update r i fun m => m.evolves_report _⟩
  | some callback =>
    obtain ⟨hresult, htrigger, hsame, lines, hlines⟩ :=
      runHandler_records host hcall i callback.handler t r
    dsimp only
    rw [hresult, htrigger]
    cases (runHandler host call' i callback.handler t r.session).1 with
    | ok _ => exact ⟨rfl, hsame, lines, hlines⟩
    | error f =>
      refine ⟨rfl, congrArg (Session.update · i _) hsame, lines ++ [], ?_⟩
      exact hlines.trans (.update _ i fun m => m.evolves_report _)

omit hcall in
theorem mount_records (what : Mountable) (r : Recorded σ) :
    let p := Recorded.mount host what r
    let q := mount host what r.session
    p.1 = q.1 ∧ p.2.session = q.2 ∧ ∃ lines, Onward r lines p.2 := by
  have honward : Onward r [] { r with session := (mount host what r.session).2 } := by
    rcases session_mount host r.session what with hsame | ⟨definition, issues, hstarted⟩
    · rw [hsame]
      exact .unmount r
    · rw [hstarted]
      exact (Onward.unmount r).trans (.start _ _)
  unfold Recorded.mount
  generalize mount host what r.session = q at honward
  obtain ⟨result, s⟩ := q
  dsimp only
  cases s.mounts[r.session.mounts.length]? with
  | none => exact ⟨rfl, rfl, [], honward⟩
  | some m => exact ⟨rfl, rfl, _, honward.trans (.note _ nofun fun _ => rfl)⟩

theorem performWith_records (op : Op σ) :
    Records (Recorded.performWith host call op) (performWith host call' op) := by
  intro r
  cases op with
  | mount what =>
    obtain ⟨hresult, hsame⟩ := mount_records host what r
    exact ⟨congrArg (Except.map Reply.mounted) hresult, hsame⟩
  | invoke i key t =>
    obtain ⟨hresult, hsame⟩ := invoke_records host hcall i key t r
    exact ⟨congrArg (fun x => Except.ok (Reply.ran x)) hresult, hsame⟩
  | runHandler i handler t =>
    obtain ⟨hresult, htrigger, hsame⟩ := runHandler_records host hcall i handler t r
    dsimp only [Recorded.performWith, performWith, Act.runIn]
    rw [hresult, htrigger]
    exact ⟨rfl, hsame⟩
  | merge i changes =>
    dsimp only [Recorded.performWith, performWith, Act.runIn]
    cases changes.toDictOrEmpty with
    | error f => exact ⟨rfl, rfl, [], .refl r⟩
    | ok changes =>
      obtain ⟨hresult, hsame⟩ := mergeState_records host hcall i changes r
      exact ⟨congrArg (Except.map fun _ => Reply.done) hresult, hsame⟩
  | render i =>
    have hrender : Onward r [] { r with session := r.session.update i Mount.render } :=
      .update r i Mount.evolves_render
    dsimp only [Recorded.performWith, performWith, Act.runIn]
    cases hm : r.session.mounts[i]? with
    | none =>
      rw [update_of_none hm, Recorded.noteOf_none hm]
      exact ⟨rfl, rfl, [], .refl r⟩
    | some m =>
      rw [Recorded.noteOf_some (get?_update_self hm _)]
      exact ⟨rfl, rfl, _, hrender.trans (.note _ nofun fun _ => rfl)⟩
  | unmount => exact ⟨rfl, rfl, [], .unmount r⟩
  | stop i => exact ⟨rfl, rfl, [], .update r i Mount.evolves_stop⟩
  | subscribe i number | unsubscribe i number =>
    exact ⟨rfl, rfl, [], .update r i fun m => ⟨.kept rfl rfl, List.prefix_rfl⟩⟩
  | remember memory => exact ⟨rfl, rfl, [], .of_mounts r rfl rfl⟩

end

/-! ## Code of the host -/

theorem runCode_records {perform : Op σ → Act (Recorded σ) Reply}
    {perform' : Op σ → Act (Session σ) Reply} (hperform : ∀ op, Records (perform op) (perform' op))
    (code : Code σ) : Records (Recorded.runCode perform code) (code.run perform') := by
  induction code with
  | done => exact .pure ()
  | raise f => exact .throw f
  | ask op next ih =>
    intro r
    obtain ⟨hanswer, hsame, lines, hlines⟩ := hperform op r
    have hrest := ih ((perform' op).runIn r.session).1 ((perform' op).runIn r.session).2
      ((perform op).runIn r).2.see
    have hseen : ((perform op).runIn r).2.see.session = ((perform' op).runIn r.session).2 := hsame
    rw [hseen] at hrest
    obtain ⟨hresult, hsame', more, hmore⟩ := hrest
    dsimp only [Recorded.runCode, Script.run, Act.runIn] at *
    rw [hanswer, hsame]
    exact ⟨hresult, hsame', _, (hlines.trans (.see _)).trans hmore⟩

theorem call_records {perform : Op σ → Act (Recorded σ) Reply}
    {perform' : Op σ → Act (Session σ) Reply} (hperform : ∀ op, Records (perform op) (perform' op))
    (code : Session σ → Code σ) :
    Records (Recorded.call perform code) (fun s => (code s).run perform' s) := by
  intro r
  obtain ⟨hresult, hsame, lines, hlines⟩ := runCode_records hperform (code r.session) r.see
  exact ⟨hresult, hsame, _, (Onward.see r).trans hlines⟩

/-- **However deeply calls nest, an operation goes on from where it began**, as if unrecorded. -/
theorem perform_records (host : Host σ) (depth : Nat) (op : Op σ) :
    Records (Recorded.perform host depth op) (perform host depth op) := by
  induction depth generalizing op with
  | zero => exact .throw _
  | succ depth ih => exact performWith_records host (call_records ih) op

end Session

end AssistantUI
