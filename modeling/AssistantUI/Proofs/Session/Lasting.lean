import AssistantUI.Proofs.Session.Invariant

/-!
# What lasts of a single mount

Many a property of sessions is about one mount and about what happened to it so far. Such a
property is checked against one mount at a time: a step changes the mount, or adds a line to the
journal, or both (`Lasting`). It then holds of every mount of a run, at the end and wherever host
code found the mount on the way (`Lasting.run`).

A mount can only have been spoken of since it was made. The lines of a journal are therefore
below the number of the next mount, and a property may start from a journal that says nothing of
the mount it is about.
-/

namespace AssistantUI.Session

variable {σ : Type}

namespace Moment

/-- The mount that a line is about; what host code finds is about all of them. -/
def subject : Moment σ → Option Nat
  | mounting i _ => some i
  | merging i _ => some i
  | rendering i => some i
  | telling i _ _ => some i
  | seeing _ => none

/-- The line knows no mount from number `n` on. -/
def Below (n : Nat) : Moment σ → Prop
  | mounting i _ => i < n
  | merging i _ => i < n
  | rendering i => i < n
  | telling i _ _ => i < n
  | seeing s => s.mounts.length ≤ n

theorem Below.mono {n k : Nat} {e : Moment σ} (h : e.Below n) (hk : n ≤ k) : e.Below k := by
  cases e with
  | seeing s => exact Nat.le_trans h hk
  | _ => exact Nat.lt_of_lt_of_le h hk

end Moment

/-- A property of a mount and a journal that every step keeps. -/
structure Lasting (P : Nat → List (Moment σ) → Mount → Prop) : Prop where
  face {i journal m m'} : P i journal m → m'.face = m.face → P i journal m'
  start {i journal} (id : String) (definition : Option Definition) (issues : List Issue) :
    (∀ e ∈ journal, e.Below i) →
    P i (journal ++ [.mounting i definition]) (Mount.start id definition issues)
  stop {i journal m} : P i journal m → P i journal m.stop
  render {i journal m} : P i journal m → P i (journal ++ [.rendering i]) m.render
  merge {i journal m} (changes : State) : P i journal m →
    P i (journal ++ [.merging i changes]) (m.merge changes)
  seeing {i journal m s} : P i journal m → s.mounts[i]? = some m →
    P i (journal ++ [.seeing s]) m
  telling {i journal m} (name : String) (payload : Payload) : P i journal m →
    m.mounted = true → P i (journal ++ [.telling i name payload]) m
  /-- A line about another mount. -/
  other {i journal m e j} : P i journal m → e.subject = some j → j ≠ i → P i (journal ++ [e]) m

/-- The property holds of each mount, and nothing else was spoken of. -/
structure Upheld (P : Nat → List (Moment σ) → Mount → Prop) (mounts : List Mount)
    (journal : List (Moment σ)) : Prop where
  each : ∀ (i : Nat) (m : Mount), mounts[i]? = some m → P i journal m
  below : ∀ e ∈ journal, e.Below mounts.length

/-- The property is upheld now, and was wherever host code ran so far. -/
structure Kept (P : Nat → List (Moment σ) → Mount → Prop) (mounts : List Mount)
    (journal : List (Moment σ)) : Prop where
  now : Upheld P mounts journal
  seen : ∀ (k : Nat) (s : Session σ), journal[k]? = some (.seeing s) →
    Upheld P s.mounts (journal.take k)

namespace Kept

variable {P : Nat → List (Moment σ) → Mount → Prop} {mounts mounts' : List Mount}
  {journal : List (Moment σ)}

/-- Without a new line, only the mounts as they are now count. -/
theorem of_each (h : Kept P mounts journal) (hlength : mounts.length ≤ mounts'.length)
    (heach : ∀ (i : Nat) (m : Mount), mounts'[i]? = some m → P i journal m) :
    Kept P mounts' journal :=
  ⟨⟨heach, fun e he => (h.now.below e he).mono hlength⟩, h.seen⟩

theorem note (h : Kept P mounts journal) {e : Moment σ} (hlength : mounts.length ≤ mounts'.length)
    (heach : ∀ (i : Nat) (m : Mount), mounts'[i]? = some m → P i (journal ++ [e]) m)
    (hbelow : e.Below mounts'.length) (hseen : ∀ s, e = .seeing s → s.mounts = mounts) :
    Kept P mounts' (journal ++ [e]) := by
  refine ⟨⟨heach, ?_⟩, ?_⟩
  · intro f hf
    rcases List.mem_append.mp hf with hf | hf
    · exact (h.now.below f hf).mono hlength
    · exact List.mem_singleton.mp hf ▸ hbelow
  · intro k s hk
    have hlt : k < (journal ++ [e]).length := by
      obtain ⟨hlt, -⟩ := List.getElem?_eq_some_iff.mp hk
      exact hlt
    rw [List.length_append, List.length_singleton] at hlt
    -- before the new line nothing is changed, and what was noted is still what was noted
    by_cases hlast : k = journal.length
    · subst hlast
      rw [List.getElem?_concat_length] at hk
      rw [List.take_left, hseen s (Option.some.inj hk)]
      exact h.now
    · have hbefore : k < journal.length := by omega
      rw [List.getElem?_append_left hbefore] at hk
      rw [List.take_append_of_le_length (by omega)]
      exact h.seen k s hk

/-- A line about one mount, which may change along with it. -/
theorem note_modify (h : Kept P mounts journal) {i : Nat} {m : Mount} (hm : mounts[i]? = some m)
    {f : Mount → Mount} {e : Moment σ} (he : e.subject = some i)
    (hf : P i journal m → P i (journal ++ [e]) (f m))
    (hother : ∀ j k, P j journal k → i ≠ j → P j (journal ++ [e]) k) :
    Kept P (mounts.modify i f) (journal ++ [e]) := by
  obtain ⟨hi, -⟩ := List.getElem?_eq_some_iff.mp hm
  have hlength := List.length_modify f mounts i
  refine h.note (Nat.le_of_eq hlength.symm) ?_ ?_ ?_
  · intro j k hk
    rw [List.getElem?_modify] at hk
    obtain ⟨k', hk', rfl⟩ := Option.map_eq_some_iff.mp hk
    by_cases hij : i = j
    · subst hij
      rw [if_pos rfl]
      obtain rfl := Option.some.inj (hm.symm.trans hk')
      exact hf (h.now.each i m hm)
    · rw [if_neg hij]
      exact hother j k' (h.now.each j k' hk') hij
  · rw [hlength]
    cases e with
    | seeing s => cases he
    | _ => cases he; exact hi
  · rintro s rfl
    cases he

/-- Another mount in the place of one, without a line. -/
theorem modify (h : Kept P mounts journal) (i : Nat) {f : Mount → Mount}
    (hf : ∀ m, P i journal m → P i journal (f m)) : Kept P (mounts.modify i f) journal := by
  refine h.of_each (Nat.le_of_eq (List.length_modify f mounts i).symm) ?_
  intro j m hm
  rw [List.getElem?_modify] at hm
  obtain ⟨m', hm', rfl⟩ := Option.map_eq_some_iff.mp hm
  by_cases hij : i = j
  · subst hij
    rw [if_pos rfl]
    exact hf m' (h.now.each i m' hm')
  · rw [if_neg hij]
    exact h.now.each j m' hm'

end Kept

namespace Lasting

variable {P : Nat → List (Moment σ) → Mount → Prop} (h : Lasting P)
include h

theorem kept_start {mounts : List Mount} {journal : List (Moment σ)}
    (hkept : Kept P mounts journal) (id : String) (definition : Option Definition)
    (issues : List Issue) :
    Kept P (mounts ++ [Mount.start id definition issues])
      (journal ++ [.mounting mounts.length definition]) := by
  refine hkept.note (by rw [List.length_append]; omega) ?_ ?_ nofun
  · intro i m hm
    by_cases hi : i < mounts.length
    · rw [List.getElem?_append_left hi] at hm
      exact h.other (hkept.now.each i m hm) rfl (by omega)
    · rw [List.getElem?_append_right (by omega)] at hm
      obtain ⟨hlt, hget⟩ := List.getElem?_eq_some_iff.mp hm
      rw [List.length_singleton] at hlt
      have hlast : i = mounts.length := by omega
      subst hlast
      rw [List.getElem_singleton] at hget
      exact hget ▸ h.start id definition issues hkept.now.below
  · show mounts.length < (mounts ++ [_]).length
    rw [List.length_append, List.length_singleton]
    omega

/-- What lasts of each mount is kept by the steps of a session. -/
theorem steady : Steady fun r : Recorded σ => Kept P r.session.mounts r.journal where
  seeing {r} hkept := by
    refine hkept.note (Nat.le_refl _) ?_ (Nat.le_refl _) ?_
    · exact fun i m hm => h.seeing (hkept.now.each i m hm) hm
    · rintro s hs
      cases hs
      rfl
  telling {r i m} name payload hkept hm hmounted := by
    -- the mount that tells of it is mounted, and stays as it is
    have hsame : r.session.mounts.modify i id = r.session.mounts := List.modify_id i _
    show Kept P r.session.mounts (r.journal ++ [.telling i name payload])
    rw [← hsame]
    exact hkept.note_modify hm rfl (fun hP => h.telling name payload hP hmounted)
      fun j k hk hij => h.other hk rfl hij
  hidden {r s} hkept _ hfaces := by
    have hlength := congrArg List.length hfaces
    rw [List.length_map, List.length_map] at hlength
    refine hkept.of_each (Nat.le_of_eq hlength.symm) ?_
    intro i m hm
    have hface := congrArg (·[i]?) hfaces
    simp only [List.getElem?_map, hm, Option.map_some] at hface
    obtain ⟨m', hm', heq⟩ := Option.map_eq_some_iff.mp hface.symm
    exact h.face (hkept.now.each i m' hm') heq.symm
  stop i hkept := hkept.modify i fun _ => h.stop
  unmount {r} hkept := by
    unfold unmount
    cases r.session.current with
    | none => exact hkept
    | some i => exact hkept.modify i fun _ => h.stop
  start id definition issues hkept _ := h.kept_start hkept id definition issues
  render hkept hm := hkept.note_modify hm rfl h.render fun _ _ hk hij => h.other hk rfl hij
  merge hkept hm _ := hkept.note_modify hm rfl (h.merge _) fun _ _ hk hij => h.other hk rfl hij

/-- **What every step keeps of a single mount holds of every mount of a run**, at its end and
wherever host code ran. -/
theorem run (host : Host σ) (depth : Nat) (memory : σ) (code : Session σ → Code σ) :
    (Recorded.run host depth memory code).1 =
        (((code (.new memory)).run (Session.perform host depth)).runIn (.new memory)).1 ∧
      (Recorded.run host depth memory code).2.session =
        (((code (.new memory)).run (Session.perform host depth)).runIn (.new memory)).2 ∧
      Kept P (Recorded.run host depth memory code).2.session.mounts
        (Recorded.run host depth memory code).2.journal :=
  h.steady.run (fun _ => ⟨⟨nofun, nofun⟩, nofun⟩) host depth memory code

end Lasting

end AssistantUI.Session
