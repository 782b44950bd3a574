import AssistantUI.Session.Basic

/-!
# Mounts of a session

A session changes its mounts one at a time, and all that matters of such a change is what it
makes of the mount that is there. A mount in turn is heard by its own listener first: it has
rendered before any code of the host is called (`Mount.Heard`), so that writing changes and
rendering come to one change of it (`Mount.merge`).
-/

namespace AssistantUI

/-! ## Listeners of mounts -/

/-- A mount hears its own store first, as long as it is mounted, and not again. -/
def Mount.Heard (m : Mount) : Prop :=
  ∃ rest : List Listener, .rerender ∉ rest ∧
    m.store.listeners = (if m.mounted then [.rerender] else []) ++ rest

namespace Mount

theorem heard_start (id : String) (definition : Option Definition) (issues : List Issue) :
    (start id definition issues).Heard := ⟨[], List.not_mem_nil, rfl⟩

theorem heard_stop {m : Mount} (h : m.Heard) : m.stop.Heard := by
  unfold stop
  by_cases hm : m.mounted = true
  · rw [if_pos hm]
    exact ⟨[], List.not_mem_nil, rfl⟩
  · rw [if_neg hm]
    exact h

theorem heard_subscribe {m : Mount} (h : m.Heard) (number : Nat) :
    Heard { m with store := m.store.subscribe (.host number) } := by
  obtain ⟨rest, hrest, hl⟩ := h
  refine ⟨rest ++ [.host number], by simpa using hrest, ?_⟩
  show m.store.listeners ++ _ = _
  rw [hl, List.append_assoc]

theorem heard_unsubscribe {m : Mount} (h : m.Heard) (number : Nat) :
    Heard { m with store := m.store.unsubscribe (.host number) } := by
  obtain ⟨rest, hrest, hl⟩ := h
  refine ⟨rest.erase (.host number), fun hmem => hrest (List.mem_of_mem_erase hmem), ?_⟩
  show m.store.listeners.erase _ = _
  -- the registration that is taken back is not the mount's own
  rw [hl, List.erase_append_right]
  split
  · exact fun hmem => absurd (List.mem_singleton.mp hmem) (by simp)
  · exact List.not_mem_nil

/-- What the first listener of a mount does. -/
def rerender (m : Mount) : Mount := if m.mounted then m.render else m

/-- Writes changes into the state. -/
def write (changes : State) (m : Mount) : Mount := { m with store := m.store.write changes }

/-- Writes changes into the state and, if the mount is mounted, renders. -/
def merge (changes : State) (m : Mount) : Mount := (m.write changes).rerender

theorem heard_merge {m : Mount} (h : m.Heard) (changes : State) : (m.merge changes).Heard := by
  unfold merge rerender
  split
  · exact h
  · exact h

theorem merge_of_mounted {m : Mount} (h : m.mounted = true) (changes : State) :
    m.merge changes = (m.write changes).render := if_pos h

theorem merge_of_not_mounted {m : Mount} (h : ¬ m.mounted = true) (changes : State) :
    m.merge changes = m.write changes := if_neg h

/-- A mount without what it shows to nobody: its listeners and its reports. -/
def face (m : Mount) : Mount := { m with store := ⟨m.store.values, []⟩, reporter := {} }

/-- Mounts with the same face agree in whatever depends on the face alone. -/
theorem eq_of_face {α : Type} (f : Mount → α) (hf : ∀ m, f m.face = f m) {m m' : Mount}
    (h : m'.face = m.face) : f m' = f m := by
  rw [← hf m', h, hf]

end Mount

namespace Session

variable {σ : Type}

/-! ## Changing one mount -/

theorem store_of_get {s : Session σ} {i : Nat} {m : Mount} (hm : s.mounts[i]? = some m) :
    store i s = m.store := by
  rw [store, hm]
  rfl

theorem get?_update (s : Session σ) (i j : Nat) (f : Mount → Mount) :
    (s.update i f).mounts[j]? = if i = j then (s.mounts[j]?).map f else s.mounts[j]? := by
  rw [update, List.getElem?_modify]
  by_cases h : i = j
  · simp [h]
  · simp [h]

theorem get?_update_self {s : Session σ} {i : Nat} {m : Mount} (hm : s.mounts[i]? = some m)
    (f : Mount → Mount) : (s.update i f).mounts[i]? = some (f m) := by
  rw [get?_update, if_pos rfl, hm]
  rfl

theorem get?_update_of_ne (s : Session σ) {i j : Nat} (hij : i ≠ j) (f : Mount → Mount) :
    (s.update i f).mounts[j]? = s.mounts[j]? := by
  rw [get?_update, if_neg hij]

theorem update_update (s : Session σ) (i : Nat) (f g : Mount → Mount) :
    (s.update i f).update i g = s.update i fun m => g (f m) := by
  simp [update, List.modify_modify_eq, Function.comp_def]

/-- Only what a change makes of the mount that is there counts. -/
theorem update_congr {s : Session σ} {i : Nat} {f g : Mount → Mount}
    (h : ∀ m, s.mounts[i]? = some m → f m = g m) : s.update i f = s.update i g := by
  have hmounts : s.mounts.modify i f = s.mounts.modify i g := by
    refine List.ext_getElem? fun j => ?_
    rw [List.getElem?_modify, List.getElem?_modify]
    by_cases hj : i = j
    · subst hj
      cases hm : s.mounts[i]? with
      | none => rfl
      | some m => simp [h m hm]
    · simp [hj]
  rw [update, update, hmounts]

theorem update_id (s : Session σ) (i : Nat) : (s.update i fun m => m) = s := by
  have hmounts : s.mounts.modify i (fun m => m) = s.mounts := List.modify_id i s.mounts
  rw [update, hmounts]

/-- What is done to a mount that is not there is not done. -/
theorem update_of_none {s : Session σ} {i : Nat} (h : s.mounts[i]? = none) (f : Mount → Mount) :
    s.update i f = s := by
  have hsame : s.update i f = s.update i fun m => m := update_congr fun m hm => by simp [h] at hm
  rw [hsame, update_id]

theorem map_face_update (s : Session σ) (i : Nat) {f : Mount → Mount}
    (h : ∀ m, (f m).face = m.face) :
    (s.update i f).mounts.map Mount.face = s.mounts.map Mount.face := by
  refine List.ext_getElem? fun j => ?_
  rw [List.getElem?_map, List.getElem?_map, get?_update]
  by_cases hj : i = j
  · rw [if_pos hj, Option.map_map]
    exact congrArg (Option.map · _) (funext h)
  · rw [if_neg hj]

/-- Where the faces are the same, every mount was there before with its face. -/
theorem get?_of_face {s s' : Session σ} (h : s'.mounts.map Mount.face = s.mounts.map Mount.face)
    {i : Nat} {m' : Mount} (hm' : s'.mounts[i]? = some m') :
    ∃ m, s.mounts[i]? = some m ∧ m.face = m'.face := by
  have hface : (s.mounts[i]?).map Mount.face = some m'.face := by
    rw [← List.getElem?_map, ← h, List.getElem?_map, hm']
    rfl
  exact Option.map_eq_some_iff.mp hface

theorem length_unmount (s : Session σ) : s.unmount.mounts.length = s.mounts.length := by
  unfold unmount
  cases s.current with
  | none => rfl
  | some i => exact List.length_modify ..

theorem current_unmount (s : Session σ) : s.unmount.current = none := by
  unfold unmount
  cases hs : s.current with
  | none => exact hs
  | some i => rfl

theorem currentMount_unmount (s : Session σ) : s.unmount.currentMount = none := by
  rw [currentMount, current_unmount]
  rfl

theorem currentMount_start (s : Session σ) (m : Mount) : (s.start m).currentMount = some m :=
  List.getElem?_concat_length

theorem host_unmount (s : Session σ) : s.unmount.host = s.host := by
  unfold unmount
  cases s.current with
  | none => rfl
  | some i => rfl

/-- Taking down what is present makes it stop, and changes no other mount. -/
theorem get?_unmount_of_current {s : Session σ} {i : Nat} (h : s.current = some i) (j : Nat) :
    s.unmount.mounts[j]? = if i = j then (s.mounts[j]?).map Mount.stop else s.mounts[j]? := by
  unfold unmount
  rw [h]
  exact get?_update s i j Mount.stop

/-! ## What is kept of all mounts -/

/-- Every mount is still there, and what is looked at of it is the same. -/
def Keeps {α : Type} (look : Mount → α) (s s' : Session σ) : Prop :=
  ∀ (i : Nat) (m : Mount), s.mounts[i]? = some m → ∃ m', s'.mounts[i]? = some m' ∧ look m' = look m

namespace Keeps

variable {α : Type} {look : Mount → α} {s s' s'' : Session σ}

theorem of_mounts (h : s'.mounts = s.mounts) : s.Keeps look s' :=
  fun _ m hm => ⟨m, by rw [h]; exact hm, rfl⟩

theorem refl (s : Session σ) : s.Keeps look s := of_mounts rfl

theorem trans (h : s.Keeps look s') (h' : s'.Keeps look s'') : s.Keeps look s'' := by
  intro i m hm
  obtain ⟨m', hm', hlook⟩ := h i m hm
  obtain ⟨m'', hm'', hlook'⟩ := h' i m' hm'
  exact ⟨m'', hm'', hlook'.trans hlook⟩

theorem of_face (hface : ∀ m, look m.face = look m)
    (h : s'.mounts.map Mount.face = s.mounts.map Mount.face) : s.Keeps look s' := by
  intro i m hm
  obtain ⟨m', hm', heq⟩ := get?_of_face h.symm hm
  exact ⟨m', hm', Mount.eq_of_face look hface heq⟩

theorem update (s : Session σ) (i : Nat) {f : Mount → Mount}
    (hf : ∀ m, s.mounts[i]? = some m → look (f m) = look m) : s.Keeps look (s.update i f) := by
  intro j m hm
  rw [get?_update]
  by_cases hij : i = j
  · subst hij
    rw [if_pos rfl, hm]
    exact ⟨f m, rfl, hf m hm⟩
  · rw [if_neg hij]
    exact ⟨m, hm, rfl⟩

theorem unmount (s : Session σ) (hstop : ∀ m, look m.stop = look m) :
    s.Keeps look s.unmount := by
  unfold Session.unmount
  cases s.current with
  | none => exact refl s
  | some i => exact update s i fun m _ => hstop m

theorem start (s : Session σ) (m : Mount) : s.Keeps look (s.start m) := by
  intro i k hk
  obtain ⟨hi, -⟩ := List.getElem?_eq_some_iff.mp hk
  refine ⟨k, ?_, rfl⟩
  rw [Session.start, List.getElem?_append_left hi, hk]

end Keeps

/-! ## Mounting -/

section

variable (host : Host σ) (s : Session σ) {what : Mountable}

theorem mount_of_null (h : what.isNull = true) : mount host what s = (.ok none, s.unmount) :=
  if_pos h

theorem mount_of_error (hnull : what.isNull = false) {f : Fault} (h : what.parse = .error f) :
    mount host what s = (.error f, s.unmount) := by
  unfold mount
  dsimp only
  rw [hnull, if_neg Bool.false_ne_true, h]

/-- Whatever is read is mounted, under the number that is next. -/
theorem mount_of_ok (hnull : what.isNull = false) {definition : Option Definition}
    {issues : List Issue} (h : what.parse = .ok (definition, issues)) :
    mount host what s = (.ok (some s.mounts.length),
      s.unmount.start (Mount.start (host.mountId s.mounts.length) definition issues)) := by
  unfold mount
  dsimp only
  rw [hnull, if_neg Bool.false_ne_true, h, length_unmount]

/-- Mounting takes down what is present, and puts at most one new mount behind all others. -/
theorem session_mount (what : Mountable) : (mount host what s).2 = s.unmount ∨
    ∃ definition issues, (mount host what s).2 =
      s.unmount.start (Mount.start (host.mountId s.mounts.length) definition issues) := by
  by_cases hnull : what.isNull = true
  · exact .inl (by rw [mount_of_null host s hnull])
  · have hsome : what.isNull = false := Bool.eq_false_iff.mpr hnull
    cases hparse : what.parse with
    | error f => exact .inl (by rw [mount_of_error host s hsome hparse])
    | ok r => exact .inr ⟨r.1, r.2, by rw [mount_of_ok host s hsome hparse]⟩

end

/-! ## Listeners of all mounts -/

/-- Every mount hears its own store first. -/
def Heard (s : Session σ) : Prop :=
  ∀ (i : Nat) (m : Mount), s.mounts[i]? = some m → m.Heard

theorem heard_update {s : Session σ} (h : s.Heard) (i : Nat) {f : Mount → Mount}
    (hf : ∀ m, m.Heard → (f m).Heard) : (s.update i f).Heard := by
  intro j m hm
  rw [get?_update] at hm
  split at hm
  · obtain ⟨m', hm', rfl⟩ := Option.map_eq_some_iff.mp hm
    exact hf m' (h j m' hm')
  · exact h j m hm

theorem heard_unmount {s : Session σ} (h : s.Heard) : s.unmount.Heard := by
  unfold unmount
  cases s.current with
  | none => exact h
  | some i => exact fun j m hm => heard_update h i (fun _ => Mount.heard_stop) j m hm

theorem heard_start {s : Session σ} (h : s.Heard) {m : Mount} (hm : m.Heard) :
    (s.start m).Heard := by
  intro j k hk
  rw [start, List.getElem?_append] at hk
  split at hk
  · exact h j k hk
  · have hmem := List.mem_of_getElem? hk
    rw [List.mem_singleton] at hmem
    exact hmem ▸ hm

end Session

end AssistantUI
