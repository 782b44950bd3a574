import AssistantUI.Proofs.Act
import AssistantUI.State.Store
import Mathlib.Data.List.Induction
import Mathlib.Data.List.Infix

/-!
# Registrations and the handles to take them back

Whoever registers a listener gets a handle, to take this registration back with. A store does not
know its registrations apart if they are of one listener, though: a handle takes back the first that
is left of its listener, and does nothing if none is. So two handles for one listener can be taken
for each other, and a handle that is used again can take back what another one stands for.

`Apt` says when the use of a handle does what it is for. Registrations are told of merges as the
handles say as long as each use is apt, and no longer (`notified_iff_apt`). Where every listener is
registered once, each use is.
-/

namespace AssistantUI

variable {κ : Type}

/-! ## Stores with handles -/

/-- What can be asked of a store by those who register listeners. -/
inductive Dealing (κ : Type) where
  | subscribe (l : κ)
  /-- The handle of that number is used, for the first time or again. -/
  | takeBack (handle : Nat)
  | dispose

/-- A store, the handles it gave out, and the registrations that ought to stand. -/
structure Registry (κ : Type) where
  store : Store κ
  /-- Whose registration each handle is for, the first given out first. -/
  handles : List κ
  /-- Registrations whose own handle was not used and which no disposal removed, by handle. -/
  standing : List (Nat × κ)

namespace Registry

/-- A store that nobody listens to. -/
def new (values : State) : Registry κ := ⟨Store.new values, [], []⟩

/-- The listeners of the registrations that ought to stand. -/
def expected (r : Registry κ) : List κ := r.standing.map Prod.snd

variable [DecidableEq κ]

/-- A handle asks the store to take back its listener, whatever has become of the registration. -/
def step (r : Registry κ) : Dealing κ → Registry κ
  | .subscribe l =>
    ⟨r.store.subscribe l, r.handles ++ [l], r.standing ++ [(r.handles.length, l)]⟩
  | .takeBack h =>
    { r with
      store := (r.handles[h]?).elim r.store r.store.unsubscribe
      standing := r.standing.filter fun e => e.1 ≠ h }
  | .dispose => { r with store := r.store.dispose, standing := [] }

def run (ds : List (Dealing κ)) (r : Registry κ) : Registry κ := ds.foldl step r

/--
A handle is used as it is for: no registration of its listener ought to stand, or its own ought to,
with no other listener between the first registration of its listener and this one.
-/
def Apt (r : Registry κ) (h : Nat) : Prop :=
  ∀ l, r.handles[h]? = some l → l ∉ r.expected ∨
    ∃ before same behind, r.standing = before ++ same ++ (h, l) :: behind ∧
      l ∉ before.map Prod.snd ∧ ∀ e ∈ same, e.2 = l

end Registry

/-! ## Who is told of a merge -/

/-- Whom a merge calls, if nobody fails. -/
def Store.notified (s : Store κ) (changes : State) : List κ :=
  ((Store.merge Prod.fst (fun w s => (s, w.2)) (fun l _ => modify fun w => (w.1, w.2 ++ [l]))
    changes : Act (Store κ × List κ) Unit).runIn (s, [])).2.2

theorem Store.runIn_notify_collect (changes : State) (listeners : List κ) (w : Store κ × List κ) :
    (Store.notify (fun l _ => modify fun w : Store κ × List κ => (w.1, w.2 ++ [l])) changes
      listeners).runIn w = (.ok (), (w.1, w.2 ++ listeners)) := by
  induction listeners generalizing w with
  | nil => rw [List.append_nil]; rfl
  | cons l rest ih =>
    rw [Store.notify, Act.runIn_bind]
    exact (ih (w.1, w.2 ++ [l])).trans (by rw [List.append_assoc]; rfl)

theorem Store.notified_eq (s : Store κ) {changes : State} (h : changes.isEmpty = false) :
    s.notified changes = s.listeners := by
  have hmerge : (Store.merge Prod.fst (fun w s => (s, w.2))
      (fun l _ => modify fun w => (w.1, w.2 ++ [l])) changes : Act (Store κ × List κ) Unit).runIn
        (s, []) = (Store.notify (fun l _ => modify fun w => (w.1, w.2 ++ [l])) changes
          s.listeners).runIn (s.write changes, []) :=
    if_neg (by rw [h]; exact Bool.false_ne_true)
  rw [Store.notified, hmerge, Store.runIn_notify_collect]
  rfl

/-! ## Taking back the first of a kind -/

theorem concat_eq_cons_iff {l : κ} {a : List κ} : a ++ [l] = l :: a ↔ ∀ x ∈ a, x = l := by
  induction a with
  | nil => simp
  | cons x rest ih =>
    rw [List.cons_append, List.cons.injEq, List.forall_mem_cons]
    refine and_congr_right fun hx => ?_
    rw [hx, ih]

variable [DecidableEq κ]

/-- The first of a kind is the one that is meant if only its like is in front of that one. -/
theorem erase_eq_iff {l : κ} {a b : List κ} : (a ++ l :: b).erase l = a ++ b ↔
    ∃ before same, a = before ++ same ∧ l ∉ before ∧ ∀ x ∈ same, x = l := by
  induction a with
  | nil => exact iff_of_true (List.erase_cons_head ..) ⟨[], [], rfl, List.not_mem_nil, nofun⟩
  | cons x rest ih =>
    by_cases hx : x = l
    · subst hx
      have hcancel : rest ++ x :: b = x :: rest ++ b ↔ rest ++ [x] = x :: rest := by
        rw [List.append_cons, List.append_cancel_right_eq]
      rw [List.cons_append, List.erase_cons_head, hcancel, concat_eq_cons_iff]
      constructor
      · exact fun h => ⟨[], x :: rest, rfl, List.not_mem_nil, List.forall_mem_cons.mpr ⟨rfl, h⟩⟩
      · rintro ⟨before, same, heq, hbefore, hsame⟩ y hy
        cases before with
        | nil =>
          rw [List.nil_append] at heq
          exact hsame y (heq ▸ List.mem_cons_of_mem _ hy)
        | cons z before => exact absurd List.mem_cons_self ((List.cons.inj heq).1 ▸ hbefore)
    · rw [List.cons_append, List.erase_cons_tail (by simpa using hx), List.cons_append,
        List.cons.injEq, and_iff_right rfl, ih]
      constructor
      · rintro ⟨before, same, rfl, hbefore, hsame⟩
        exact ⟨x :: before, same, rfl, List.not_mem_cons_of_ne_of_not_mem (Ne.symm hx) hbefore,
          hsame⟩
      · rintro ⟨before, same, heq, hbefore, hsame⟩
        cases before with
        | nil =>
          rw [List.nil_append] at heq
          exact absurd (hsame x (heq ▸ List.mem_cons_self)) hx
        | cons z before =>
          exact ⟨before, same, (List.cons.inj heq).2, List.not_mem_of_not_mem_cons hbefore, hsame⟩

namespace Registry

/-! ## What is known of registrations -/

/-- Registrations that ought to stand are of the listener that their handle is for. -/
structure Sound (r : Registry κ) : Prop where
  known : ∀ e ∈ r.standing, r.handles[e.1]? = some e.2
  distinct : r.standing.Pairwise fun d e => d.1 ≠ e.1

theorem Sound.step {r : Registry κ} (h : Sound r) (d : Dealing κ) : Sound (r.step d) := by
  have hlt : ∀ e ∈ r.standing, e.1 < r.handles.length := fun e he =>
    (List.getElem?_eq_some_iff.mp (h.known e he)).1
  cases d with
  | subscribe l =>
    constructor
    · intro e he
      rcases List.mem_append.mp he with he | he
      · exact (List.getElem?_append_left (hlt e he)).trans (h.known e he)
      · rw [List.mem_singleton.mp he]
        exact List.getElem?_concat_length
    · refine List.pairwise_append.mpr ⟨h.distinct, List.pairwise_singleton _ _, fun d hd e he => ?_⟩
      rw [List.mem_singleton.mp he]
      exact Nat.ne_of_lt (hlt d hd)
  | takeBack i =>
    exact ⟨fun e he => h.known e (List.mem_filter.mp he).1, h.distinct.filter _⟩
  | dispose => exact ⟨nofun, List.Pairwise.nil⟩

theorem Sound.run {r : Registry κ} (h : Sound r) (ds : List (Dealing κ)) : Sound (r.run ds) := by
  induction ds generalizing r with
  | nil => exact h
  | cons d rest ih => exact ih (h.step d)

theorem run_concat (ds : List (Dealing κ)) (d : Dealing κ) (r : Registry κ) :
    run (ds ++ [d]) r = (run ds r).step d := List.foldl_append

omit [DecidableEq κ] in
theorem sound_new (values : State) : Sound (new values : Registry κ) := ⟨nofun, .nil⟩

/-- Using the handle of a registration that ought to stand leaves all others. -/
theorem Sound.filter_standing {r : Registry κ} (hr : Sound r) {h : Nat} {l : κ}
    {a b : List (Nat × κ)} (hsplit : r.standing = a ++ (h, l) :: b) :
    (r.step (.takeBack h)).standing = a ++ b := by
  have hdistinct := hr.distinct
  rw [hsplit, List.pairwise_append, List.pairwise_cons] at hdistinct
  have ha : ∀ e ∈ a, decide (e.1 ≠ h) = true := fun e he =>
    decide_eq_true (hdistinct.2.2 e he (h, l) List.mem_cons_self)
  have hb : ∀ e ∈ b, decide (e.1 ≠ h) = true := fun e he =>
    decide_eq_true (Ne.symm (hdistinct.2.1.1 e he))
  show r.standing.filter (fun e => e.1 ≠ h) = a ++ b
  rw [hsplit, List.filter_append, List.filter_cons_of_neg (by simp), List.filter_eq_self.mpr ha,
    List.filter_eq_self.mpr hb]

/-- Using any other handle leaves all that ought to stand. -/
theorem standing_takeBack_of_not_mem {r : Registry κ} {h : Nat}
    (hnot : ∀ e ∈ r.standing, e.1 ≠ h) : (r.step (.takeBack h)).standing = r.standing :=
  List.filter_eq_self.mpr fun e he => decide_eq_true (hnot e he)

/-! ## Handles that are used as they are for -/

/-- Registrations stay as they ought to exactly if a handle is used as it is for. -/
theorem listeners_takeBack_iff {r : Registry κ} (hr : Sound r)
    (heq : r.store.listeners = r.expected) (h : Nat) :
    (r.step (.takeBack h)).store.listeners = (r.step (.takeBack h)).expected ↔ r.Apt h := by
  have hlisteners : (r.step (.takeBack h)).store.listeners =
      (r.handles[h]?).elim r.expected r.expected.erase := by
    rw [← heq]
    cases hl : r.handles[h]? <;> simp [step, hl, Store.unsubscribe]
  rw [hlisteners]
  unfold Apt
  cases hl : r.handles[h]? with
  | none =>
    have hnot : ∀ e ∈ r.standing, e.1 ≠ h := by
      rintro e he rfl
      rw [hr.known e he] at hl
      cases hl
    refine iff_of_true ?_ nofun
    rw [expected, expected, standing_takeBack_of_not_mem hnot]
    rfl
  | some l =>
    show r.expected.erase l = _ ↔ _
    have hown : ∀ e ∈ r.standing, e.1 = h → e = (h, l) := by
      rintro e he rfl
      have := hr.known e he
      rw [hl] at this
      exact Prod.ext rfl (Option.some.inj this).symm
    have hsplits : ∀ a b, r.standing = a ++ (h, l) :: b →
        (r.expected.erase l = (r.step (.takeBack h)).expected ↔
          ∃ before same, a.map Prod.snd = before ++ same ∧ l ∉ before ∧ ∀ x ∈ same, x = l) := by
      intro a b hsplit
      rw [expected, expected, hr.filter_standing hsplit, hsplit, List.map_append, List.map_cons,
        List.map_append]
      exact erase_eq_iff
    constructor
    · rintro heq l ⟨⟩
      by_cases hmem : (h, l) ∈ r.standing
      · obtain ⟨a, b, hsplit⟩ := List.append_of_mem hmem
        obtain ⟨_, _, hnames, hbefore, hsame⟩ := (hsplits a b hsplit).mp heq
        obtain ⟨before, same, rfl, rfl, rfl⟩ := List.map_eq_append_iff.mp hnames
        exact .inr ⟨before, same, b, hsplit, hbefore, fun e he =>
          hsame e.2 (List.mem_map_of_mem he)⟩
      · -- everything ought to stay, so there was nothing of this kind
        rw [expected, expected, standing_takeBack_of_not_mem fun e he hnumber =>
          hmem (hown e he hnumber ▸ he)] at heq
        exact .inl (List.erase_eq_self_iff.mp heq)
    · intro hapt
      rcases hapt l rfl with hnone | ⟨before, same, behind, hsplit, hbefore, hsame⟩
      · have hnot : ∀ e ∈ r.standing, e.1 ≠ h := fun e he hnumber =>
          hnone (List.mem_map.mpr ⟨e, he, by rw [hown e he hnumber]⟩)
        rw [List.erase_of_not_mem hnone, expected, expected, standing_takeBack_of_not_mem hnot]
      · refine (hsplits _ _ hsplit).mpr ⟨_, _, List.map_append, hbefore, ?_⟩
        exact List.forall_mem_map.mpr hsame

theorem listeners_step_iff {r : Registry κ} (hr : Sound r)
    (heq : r.store.listeners = r.expected) (d : Dealing κ) :
    (r.step d).store.listeners = (r.step d).expected ↔ ∀ h, d = .takeBack h → r.Apt h := by
  cases d with
  | subscribe l =>
    refine iff_of_true ?_ nofun
    show r.store.listeners ++ [l] = (r.standing ++ [(r.handles.length, l)]).map Prod.snd
    rw [heq, List.map_append]
    rfl
  | takeBack h =>
    rw [listeners_takeBack_iff hr heq h]
    exact ⟨fun hapt _ heq => Dealing.takeBack.inj heq ▸ hapt, fun hapt => hapt h rfl⟩
  | dispose => exact iff_of_true rfl nofun

/-- Where no listener has two handles, each use is of the registration that the handle is for. -/
theorem apt_of_nodup {r : Registry κ} (hr : Sound r) (hnodup : r.handles.Nodup) (h : Nat) :
    r.Apt h := by
  intro l hl
  have hown : ∀ e ∈ r.standing, e.2 = l → e.1 = h := by
    rintro e he rfl
    have hknown := hr.known e he
    exact List.getElem?_inj (List.getElem?_eq_some_iff.mp hknown).1 hnodup |>.mp
      (hknown.trans hl.symm)
  by_cases hmem : l ∈ r.expected
  · obtain ⟨⟨n, _⟩, he, rfl⟩ := List.mem_map.mp hmem
    obtain rfl : n = h := hown _ he rfl
    obtain ⟨a, b, hsplit⟩ := List.append_of_mem he
    refine .inr ⟨a, [], b, by rw [List.append_nil, hsplit], fun hin => ?_, nofun⟩
    obtain ⟨e, hea, hel⟩ := List.mem_map.mp hin
    have hdistinct := hr.distinct
    rw [hsplit, List.pairwise_append] at hdistinct
    exact hdistinct.2.2 e hea _ List.mem_cons_self
      (hown e (hsplit ▸ List.mem_append_left _ hea) hel)
  · exact .inl hmem

/-- Merges call who ought to be told if no listener is registered twice. -/
theorem notified_of_nodup (values : State) (ds : List (Dealing κ)) {changes : State}
    (hchanges : changes.isEmpty = false)
    (hnodup : (run ds (new values : Registry κ)).handles.Nodup) :
    (run ds (new values)).store.notified changes = (run ds (new values)).expected := by
  rw [Store.notified_eq _ hchanges]
  induction ds using List.reverseRecOn with
  | nil => rfl
  | append_singleton ds d ih =>
    rw [run_concat] at hnodup ⊢
    have hnodup' : (run ds (new values : Registry κ)).handles.Nodup := by
      cases d with
      | subscribe l => exact (List.nodup_append.mp hnodup).1
      | _ => exact hnodup
    have hr := (sound_new values).run ds
    exact (listeners_step_iff hr (ih hnodup') d).mpr fun h _ => apt_of_nodup hr hnodup' h

/-- **Merges call who ought to be told exactly as long as handles are used as they are for.** -/
theorem notified_iff_apt (values : State) (ds : List (Dealing κ)) {changes : State}
    (hchanges : changes.isEmpty = false) :
    (∀ before, before <+: ds →
      (run before (new values)).store.notified changes = (run before (new values)).expected) ↔
    ∀ before h, before ++ [.takeBack h] <+: ds → (run before (new values)).Apt h := by
  simp only [Store.notified_eq _ hchanges]
  induction ds using List.reverseRecOn with
  | nil =>
    refine iff_of_true (fun before hbefore => ?_) fun before h hbefore => ?_
    · rw [List.prefix_nil.mp hbefore]
      rfl
    · exact absurd (List.prefix_nil.mp hbefore) (List.append_ne_nil_of_right_ne_nil _ nofun)
  | append_singleton ds d ih =>
    constructor
    · intro h before i hbefore
      have hds := h ds (List.prefix_append ds [d])
      rcases List.prefix_concat_iff.mp hbefore with heq | hbefore
      · obtain ⟨rfl, hd⟩ := List.append_inj' heq rfl
        have hstep := h (before ++ [d]) List.prefix_rfl
        rw [run_concat] at hstep
        exact (listeners_step_iff ((sound_new values).run before) hds d).mp hstep i
          (List.cons.inj hd).1.symm
      · exact ih.mp (fun b hb => h b (hb.trans (List.prefix_append ds [d]))) before i hbefore
    · intro h before hbefore
      have hds := ih.mpr fun b i hb => h b i (hb.trans (List.prefix_append ds [d]))
      rcases List.prefix_concat_iff.mp hbefore with rfl | hbefore
      · rw [run_concat]
        refine (listeners_step_iff ((sound_new values).run ds) (hds ds List.prefix_rfl) d).mpr ?_
        rintro i rfl
        exact h ds i List.prefix_rfl
      · exact hds before hbefore

/-- Handles are given out twice for one listener, and used twice, yet never in another's place. -/
theorem notified_iff_apt_orderly :
    let ds : List (Dealing String) := [.subscribe "a", .subscribe "b", .takeBack 0, .takeBack 0,
      .subscribe "a", .subscribe "a", .takeBack 2, .dispose, .takeBack 3]
    let changes : State := Dict.ofList [(.text "x", .int 1)]
    changes.isEmpty = false ∧
      ∀ before h, before ++ [.takeBack h] <+: ds → (run before (new ∅)).Apt h := by
  intro ds changes
  have hchanges : changes.isEmpty = false := rfl
  refine ⟨rfl, (notified_iff_apt ∅ ds hchanges).mp fun before hbefore => ?_⟩
  have hall : ∀ before ∈ ds.inits, (run before (new ∅)).store.notified changes =
      (run before (new ∅)).expected := by decide
  exact hall before ((List.mem_inits before ds).mpr hbefore)

/-- A handle that is used again takes back what another one stands for. -/
theorem not_notified_takeBack_twice :
    let r : Registry String :=
      run [.subscribe "a", .subscribe "a", .takeBack 0, .takeBack 0] (new ∅)
    r.expected = ["a"] ∧ r.store.notified (Dict.ofList [(.text "x", .int 1)]) = [] := by
  decide

end Registry

end AssistantUI
