import AssistantUI.Proofs.State.Merges

/-!
# Listeners that keep a copy

A listener can start from what the store holds when it is registered, and apply to that copy
whatever it is told of, in the order in which it is told. It is told of every merge, but not always
in the order in which merges have begun: if a listener in front of it merges again, it hears of the
inner merge first. Where both write a key, its copy ends with the older value.

That is the only way for a copy to go wrong. A key is `Overtaken` if the last that the listener
hears of it is the value of a merge that another value has replaced in the meantime. Then the copy
has the one, and the store the other; on every other key the two agree.
-/

namespace AssistantUI.Watched

variable {σ : Type}

namespace Moment

/-- Is the listener registered here? -/
def joins (name : Key) : Moment σ → Bool
  | subscribing _ l => l = name
  | _ => false

/-- Is a registration of the listener taken back here, or the store disposed of? -/
def releases (name : Key) : Moment σ → Bool
  | unsubscribing l => l = name
  | disposing => true
  | _ => false

/-- Does a listener fail here? -/
def fails : Moment σ → Bool
  | called _ _ (.error _) => true
  | _ => false

/-- What becomes of the copy of a listener here. -/
def keep (name : Key) (copy : Option State) : Moment σ → Option State
  | subscribing s l => if l = name then some s.values else copy
  | calling _ l changes => if l = name then copy.map fun c => c.update changes else copy
  | _ => copy

/-- What is written under a key here. -/
def written (key : Key) : Moment σ → Option Json
  | merging _ changes => changes.get? key
  | _ => none

/-- What a listener is told here of a key. -/
def told (name key : Key) : Moment σ → Option Json
  | calling _ l changes => if l = name then changes.get? key else none
  | _ => none

end Moment

/-- The copy of a listener, once it is registered. -/
def copyOf (name : Key) (journal : List (Moment σ)) : Option State :=
  journal.foldl (Moment.keep name) none

/-- An entry of a list behind which no other gives anything. -/
def LastAt {α β : Type} (f : α → Option β) (l : List α) (k : Nat) (a : α) : Prop :=
  l[k]? = some a ∧ ∀ (j : Nat) (a' : α), k < j → l[j]? = some a' → f a' = none

/--
The last that a listener is told of a key is an older value: the merge that tells it of `x` has
begun before `y` was written there, which nothing has replaced since.
-/
def Overtaken (name key : Key) (x y : Json) (journal : List (Moment σ)) : Prop :=
  ∃ (i j k : Nat) (s t : Store Key) (c d : State), i < j ∧ j < k ∧ x ≠ y ∧
    journal[i]? = some (.merging s c) ∧ c.get? key = some x ∧ d.get? key = some y ∧
    LastAt (Moment.written key) journal j (.merging t d) ∧
    LastAt (Moment.told name key) journal k (.calling (begun (journal.take i)) name c)

/-! ## The last line of a kind -/

/-- What is found from the end of a list is what the last entry gives that gives anything. -/
theorem findSome?_reverse_eq_some_iff {α β : Type} {l : List α} {f : α → Option β} {b : β} :
    l.reverse.findSome? f = some b ↔ ∃ k a, LastAt f l k a ∧ f a = some b := by
  constructor
  · intro h
    obtain ⟨later, a, before, heq, ha, hlater⟩ := List.findSome?_eq_some_iff.mp h
    obtain rfl : l = before.reverse ++ a :: later.reverse := by
      rw [← List.reverse_reverse l, heq]
      simp
    refine ⟨before.length, a, ⟨?_, fun j a' hj ha' => ?_⟩, ha⟩
    · rw [List.getElem?_append_right (by simp)]
      simp
    · rw [List.getElem?_append_right (by rw [List.length_reverse]; omega), List.length_reverse,
        show j - before.length = (j - before.length - 1) + 1 by omega,
        List.getElem?_cons_succ] at ha'
      exact hlater a' (List.mem_reverse.mp (List.mem_of_getElem? ha'))
  · rintro ⟨k, a, ⟨hk, hlater⟩, ha⟩
    obtain ⟨hlt, rfl⟩ := List.getElem?_eq_some_iff.mp hk
    refine List.findSome?_eq_some_iff.mpr
      ⟨(l.drop (k + 1)).reverse, l[k], (l.take k).reverse, ?_, ha, fun a' ha' => ?_⟩
    · have hsplit : l = l.take k ++ l[k] :: l.drop (k + 1) := by
        rw [← List.drop_eq_getElem_cons hlt, List.take_append_drop]
      have hreverse := congrArg List.reverse hsplit
      rwa [List.reverse_append, List.reverse_cons, List.append_assoc] at hreverse
    · obtain ⟨j, hj⟩ := List.mem_iff_getElem?.mp (List.mem_reverse.mp ha')
      rw [List.getElem?_drop] at hj
      exact hlater _ a' (by omega) hj

/-! ## What is written, and what is told -/

/-- Under a key, a store that is not disposed of holds what was last written there. -/
theorem get?_replay (s : Store Key) (key : Key) {journal : List (Moment σ)}
    (h : journal.any Moment.disposes = false) :
    (replay s journal).values.get? key =
      (journal.reverse.findSome? (Moment.written key)).or (s.values.get? key) := by
  induction journal using List.reverseRecOn with
  | nil => rfl
  | append_singleton journal e ih =>
    rw [List.any_append, Bool.or_eq_false_iff] at h
    rw [replay_append, List.reverse_append, List.findSome?_append, Option.or_assoc, ← ih h.1]
    cases e with
    | merging t changes =>
      have hwritten : [Moment.merging (σ := σ) t changes].reverse.findSome? (Moment.written key) =
          changes.get? key := by simp [Moment.written]
      rw [hwritten]
      exact Dict.get?_update (replay s journal).values changes key
    | disposing => cases h.2
    | _ => rfl

/-- Under a key, a copy holds what its listener was last told. -/
theorem get?_keep (name : Key) (copy : State) {journal : List (Moment σ)}
    (h : journal.any (Moment.joins name) = false) :
    ∃ c, journal.foldl (Moment.keep name) (some copy) = some c ∧ ∀ key,
      c.get? key = (journal.reverse.findSome? (Moment.told name key)).or (copy.get? key) := by
  induction journal using List.reverseRecOn with
  | nil => exact ⟨copy, rfl, fun _ => rfl⟩
  | append_singleton journal e ih =>
    rw [List.any_append, Bool.or_eq_false_iff] at h
    obtain ⟨c, hc, hget⟩ := ih h.1
    simp only [List.foldl_append, List.reverse_append, List.findSome?_append, Option.or_assoc,
      ← hget, hc]
    cases e with
    | calling number l changes =>
      by_cases hl : l = name
      · refine ⟨c.update changes, by simp [Moment.keep, hl], fun key => ?_⟩
        rw [Dict.get?_update]
        simp [Moment.told, hl]
      · exact ⟨c, by simp [Moment.keep, hl], by simp [Moment.told, hl]⟩
    | subscribing s l =>
      have hl : l ≠ name := by simpa [Moment.joins] using h.2
      exact ⟨c, by simp [Moment.keep, hl], fun _ => rfl⟩
    | _ => exact ⟨c, rfl, fun _ => rfl⟩

/-! ## Who is registered -/

section

variable {κ : Type} [DecidableEq κ] {s : Store κ} {l m : κ}

theorem mem_listeners_unsubscribe (h : l ≠ m) (hl : l ∈ s.listeners) :
    l ∈ (s.unsubscribe m).listeners := (List.mem_erase_of_ne h).mpr hl

theorem not_mem_listeners_unsubscribe (hl : l ∉ s.listeners) :
    l ∉ (s.unsubscribe m).listeners := fun hmem => hl (List.mem_of_mem_erase hmem)

end

theorem mem_listeners_replay {name : Key} {journal : List (Moment σ)}
    (h : journal.any (Moment.releases name) = false) {s : Store Key} (hs : name ∈ s.listeners) :
    name ∈ (replay s journal).listeners := by
  induction journal generalizing s with
  | nil => exact hs
  | cons e rest ih =>
    rw [List.any_cons, Bool.or_eq_false_iff] at h
    refine ih h.2 ?_
    cases e with
    | subscribing t l => exact List.mem_append_left _ hs
    | unsubscribing l =>
      have hl : l ≠ name := by simpa [Moment.releases] using h.1
      exact mem_listeners_unsubscribe (Ne.symm hl) hs
    | disposing => cases h.1
    | _ => exact hs

theorem not_mem_listeners_replay {name : Key} {journal : List (Moment σ)}
    (h : journal.any (Moment.joins name) = false) {s : Store Key} (hs : name ∉ s.listeners) :
    name ∉ (replay s journal).listeners := by
  induction journal generalizing s with
  | nil => exact hs
  | cons e rest ih =>
    rw [List.any_cons, Bool.or_eq_false_iff] at h
    refine ih h.2 ?_
    cases e with
    | subscribing t l =>
      have hl : l ≠ name := by simpa [Moment.joins] using h.1
      exact fun hmem => (List.mem_append.mp hmem).elim hs fun hmem =>
        hl (List.mem_singleton.mp hmem).symm
    | unsubscribing l => exact not_mem_listeners_unsubscribe hs
    | disposing => exact List.not_mem_nil
    | _ => exact hs

/-! ## Merges and their calls -/

theorem exists_merging {n : Nat} {journal : List (Moment σ)} (h : n < begun journal) :
    ∃ (i : Nat) (s : Store Key) (c : State), journal[i]? = some (.merging s c) ∧
      begun (journal.take i) = n := by
  induction journal generalizing n with
  | nil => cases h
  | cons e rest ih =>
    cases e with
    | merging s c =>
      cases n with
      | zero => exact ⟨0, s, c, rfl, rfl⟩
      | succ n =>
        obtain ⟨i, t, d, hi, hn⟩ := ih (Nat.lt_of_succ_lt_succ h)
        exact ⟨i + 1, t, d, hi, congrArg Nat.succ hn⟩
    | _ =>
      obtain ⟨i, t, d, hi, hn⟩ := ih h
      exact ⟨i + 1, t, d, hi, hn⟩

theorem getElem?_merges {journal : List (Moment σ)} {i : Nat} {s : Store Key} {c : State}
    (h : journal[i]? = some (.merging s c)) :
    (merges journal)[begun (journal.take i)]? = some (s, c) := by
  induction journal generalizing i with
  | nil => cases h
  | cons e rest ih =>
    cases i with
    | zero =>
      cases Option.some.inj h
      rfl
    | succ i =>
      cases e with
      | merging t d => exact ih h
      | _ => exact ih h

theorem lt_of_begun_lt {journal : List (Moment σ)} {i k : Nat}
    (h : begun (journal.take i) < begun (journal.take k)) : i < k := by
  refine Nat.lt_of_not_le fun hle => ?_
  have hbegun := begun_take_le (journal.take i) k
  rw [List.take_take, Nat.min_eq_left hle] at hbegun
  omega

theorem InTurn.mem {listeners : List Key} {heard : List (Key × Except Fault Unit)}
    (h : InTurn listeners heard) {call : Key × Except Fault Unit} (hcall : call ∈ heard) :
    call.1 ∈ listeners := by
  induction h with
  | nil => cases hcall
  | ok _ ih =>
    rcases List.mem_cons.mp hcall with rfl | hcall
    · exact List.mem_cons_self
    · exact List.mem_cons_of_mem _ (ih hcall)
  | error f =>
    rw [List.mem_singleton.mp hcall]
    exact List.mem_cons_self

theorem InTurn.heard {listeners : List Key} {heard : List (Key × Except Fault Unit)}
    (h : InTurn listeners heard) (hok : ∀ call ∈ heard, call.2 = .ok ()) {name : Key}
    (hname : name ∈ listeners) : (name, .ok ()) ∈ heard := by
  induction h with
  | nil => cases hname
  | ok _ ih =>
    rcases List.mem_cons.mp hname with rfl | hname
    · exact List.mem_cons_self
    · have hrest := ih (fun call hcall => hok call (List.mem_cons_of_mem _ hcall)) hname
      exact List.mem_cons_of_mem _ hrest
  | error f => cases hok _ List.mem_cons_self

section

variable {journal : List (Moment σ)} {n : Nat} {s : Store Key} {c d : State} {name : Key}

/-- A merge tells the listeners that it found of its own changes. -/
theorem Completed.of_calling (h : Completed journal n s c)
    (hcall : .calling n name d ∈ journal) : d = c ∧ name ∈ s.listeners := by
  obtain ⟨-, heard, hturn, hcalls⟩ := h
  have hmem : Moment.calling n name d ∈ journal.filter (Moment.isOf n) :=
    List.mem_filter.mpr ⟨hcall, beq_self_eq_true n⟩
  rw [hcalls, List.mem_flatMap] at hmem
  obtain ⟨call, hheard, hvisit⟩ := hmem
  obtain ⟨rfl, rfl⟩ : name = call.1 ∧ d = c := by simpa [Moment.visit] using hvisit
  exact ⟨rfl, hturn.mem hheard⟩

/-- Where nobody fails, a merge tells all listeners that it found. -/
theorem Completed.calling (h : Completed journal n s c) (hok : journal.any Moment.fails = false)
    (hname : name ∈ s.listeners) : .calling n name c ∈ journal := by
  obtain ⟨-, heard, hturn, hcalls⟩ := h
  have hmem : ∀ call ∈ heard, ∀ e ∈ Moment.visit n c call, e ∈ journal := fun call hcall e he =>
    (List.mem_filter.mp (hcalls ▸ List.mem_flatMap.mpr ⟨call, hcall, he⟩)).1
  have hends : ∀ call ∈ heard, call.2 = .ok () := by
    intro call hcall
    have hfails := List.any_eq_false.mp hok (.called n call.1 call.2)
      (hmem call hcall _ (List.mem_cons_of_mem _ List.mem_cons_self))
    cases hend : call.2 with
    | error f => simp [Moment.fails, hend] at hfails
    | ok x => rfl
  exact hmem _ (hturn.heard hends hname) _ List.mem_cons_self

end

/-! ## Copies and the store -/

/-- In a journal a listener is registered once and stays so, while nobody fails. -/
structure Joined (name : Key) (s : Store Key) (lines : List (Moment σ)) (s' : Store Key)
    (before : List (Moment σ)) (s₀ : Store Key) (behind : List (Moment σ)) : Prop where
  segment : Segment none 0 s lines s'
  split : lines = before ++ .subscribing s₀ name :: behind
  unheard : name ∉ s.listeners
  notBefore : before.any (Moment.joins name) = false
  once : behind.any (Moment.joins name) = false
  stays : lines.any (Moment.releases name) = false
  ok : lines.any Moment.fails = false

/-- A list with one entry of a kind, taken apart at this entry. -/
theorem exists_split_of_countP {α : Type} {l : List α} {p : α → Bool} (h : l.countP p = 1) :
    ∃ before e behind, l = before ++ e :: behind ∧ p e = true ∧ before.any p = false ∧
      behind.any p = false := by
  have hpos : 0 < l.countP p := by
    rw [h]
    exact Nat.one_pos
  obtain ⟨e, he, hp⟩ := List.countP_pos_iff.mp hpos
  obtain ⟨before, behind, rfl⟩ := List.append_of_mem he
  rw [List.countP_append, List.countP_cons_of_pos hp] at h
  refine ⟨before, e, behind, rfl, hp, ?_, ?_⟩
  · exact List.any_eq_false.mpr (List.countP_eq_zero.mp (by omega))
  · exact List.any_eq_false.mpr (List.countP_eq_zero.mp (by omega))

namespace Joined

variable {name : Key} {s s' s₀ : Store Key} {lines before behind : List (Moment σ)}

theorem of_countP (hlines : Segment none 0 s lines s') (hnew : name ∉ s.listeners)
    (honce : lines.countP (Moment.joins name) = 1)
    (hstays : lines.any (Moment.releases name) = false) (hok : lines.any Moment.fails = false) :
    ∃ before s₀ behind, Joined name s lines s' before s₀ behind := by
  obtain ⟨before, e, behind, hsplit, hjoins, hbefore, hbehind⟩ := exists_split_of_countP honce
  cases e with
  | subscribing s₀ l =>
    obtain rfl : l = name := by simpa [Moment.joins] using hjoins
    exact ⟨before, s₀, behind, hlines, hsplit, hnew, hbefore, hbehind, hstays, hok⟩
  | _ => cases hjoins

theorem kept (h : Joined name s lines s' before s₀ behind) :
    lines.any Moment.disposes = false := by
  refine List.any_eq_false.mpr fun e he => ?_
  have hreleases := List.any_eq_false.mp h.stays e he
  cases e with
  | disposing => exact absurd rfl hreleases
  | _ => exact Bool.false_ne_true

/-- A listener is told of merges that begin behind its registration, and of their own changes. -/
theorem merging_of_calling (h : Joined name s lines s' before s₀ behind) {k n : Nat} {d : State}
    (hk : lines[k]? = some (.calling n name d)) :
    ∃ (i : Nat) (t : Store Key), before.length < i ∧ i < k ∧ begun (lines.take i) = n ∧
      lines[i]? = some (.merging t d) := by
  have hbegun := h.segment.begun k _ n hk (beq_self_eq_true n)
  rw [Nat.zero_add] at hbegun
  obtain ⟨i, t, c, hi, rfl⟩ := exists_merging (Nat.lt_of_lt_of_le hbegun (begun_take_le lines k))
  have hcompleted := h.segment.completed _ t c (getElem?_merges hi)
  rw [Nat.zero_add] at hcompleted
  obtain ⟨rfl, hname⟩ := hcompleted.of_calling (List.mem_of_getElem? hk)
  refine ⟨i, t, Nat.lt_of_not_le fun hle => ?_, lt_of_begun_lt hbegun, rfl, hi⟩
  -- nobody of that name was registered when the merge began
  have htake : lines.take i = before.take i := by
    rw [h.split, List.take_append_of_le_length hle]
  rw [h.segment.shows i _ t hi rfl, htake] at hname
  refine not_mem_listeners_replay (List.any_eq_false.mpr fun e he => ?_) h.unheard hname
  exact List.any_eq_false.mp h.notBefore e (List.mem_of_mem_take he)

/-- A listener is told of all merges that begin behind its registration. -/
theorem calling_of_merging (h : Joined name s lines s' before s₀ behind) {i : Nat}
    {t : Store Key} {c : State} (hlt : before.length < i) (hi : lines[i]? = some (.merging t c)) :
    ∃ k, i < k ∧ lines[k]? = some (.calling (begun (lines.take i)) name c) := by
  have hname : name ∈ t.listeners := by
    obtain ⟨j, rfl⟩ : ∃ j, i = before.length + (j + 1) := ⟨i - before.length - 1, by omega⟩
    rw [h.segment.shows _ _ t hi rfl, h.split, List.take_length_add_append, List.take_succ_cons,
      replay_append]
    refine mem_listeners_replay (s := (replay s before).subscribe name)
      (List.any_eq_false.mpr fun e he => ?_) (List.mem_append_right _ List.mem_cons_self)
    refine List.any_eq_false.mp h.stays e ?_
    rw [h.split]
    exact List.mem_append_right _ (List.mem_cons_of_mem _ (List.mem_of_mem_take he))
  have hcompleted := h.segment.completed _ t c (getElem?_merges hi)
  rw [Nat.zero_add] at hcompleted
  obtain ⟨k, hk⟩ := List.mem_iff_getElem?.mp (hcompleted.calling h.ok hname)
  have hbegun := h.segment.begun k _ _ hk (beq_self_eq_true _)
  rw [Nat.zero_add] at hbegun
  exact ⟨k, lt_of_begun_lt hbegun, hk⟩

/-- What is found from the end of the journal is found behind the registration, or before. -/
theorem findSome?_reverse {β : Type} (h : Joined name s lines s' before s₀ behind)
    {f : Moment σ → Option β} (hf : f (.subscribing s₀ name) = none) :
    lines.reverse.findSome? f =
      (behind.reverse.findSome? f).or (before.reverse.findSome? f) := by
  rw [h.split, List.reverse_append, List.reverse_cons, List.findSome?_append,
    List.findSome?_append, List.findSome?_singleton, hf, Option.or_none]

theorem told_before (h : Joined name s lines s' before s₀ behind) (key : Key) :
    before.reverse.findSome? (Moment.told name key) = none := by
  refine List.findSome?_eq_none_iff.mpr fun e he => ?_
  obtain ⟨k, hk⟩ := List.mem_iff_getElem?.mp (List.mem_reverse.mp he)
  obtain ⟨hlt, -⟩ := List.getElem?_eq_some_iff.mp hk
  cases e with
  | calling n l d =>
    by_cases hl : l = name
    · subst hl
      obtain ⟨i, t, hi, hik, -, -⟩ := h.merging_of_calling (k := k) (n := n) (d := d)
        (by rw [h.split, List.getElem?_append_left hlt, hk])
      omega
    · exact if_neg hl
  | _ => rfl

/-- A copy holds what its listener was last told, and else what the store held at the beginning. -/
theorem get?_copyOf (h : Joined name s lines s' before s₀ behind) :
    ∃ copy, copyOf name lines = some copy ∧ ∀ key, copy.get? key =
      (lines.reverse.findSome? (Moment.told name key)).or
        ((before.reverse.findSome? (Moment.written key)).or (s.values.get? key)) := by
  obtain ⟨copy, hcopy, hget⟩ := get?_keep name s₀.values h.once
  have hstart : s₀ = replay s before := by
    have hshows := h.segment.shows before.length (.subscribing s₀ name) s₀
      (by rw [h.split, List.getElem?_append_right (Nat.le_refl _), Nat.sub_self]; rfl) rfl
    rwa [h.split, List.take_left' rfl] at hshows
  have hkept : before.any Moment.disposes = false := by
    have hkept := h.kept
    rw [h.split, List.any_append, Bool.or_eq_false_iff] at hkept
    exact hkept.1
  refine ⟨copy, ?_, fun key => ?_⟩
  · rw [copyOf, h.split, List.foldl_append, List.foldl_cons, Moment.keep, if_pos rfl]
    exact hcopy
  · rw [hget, hstart, get?_replay _ _ hkept, h.findSome?_reverse rfl, h.told_before key,
      Option.or_none]

/-- What a listener is not told of was written before it was registered. -/
theorem written_of_untold (h : Joined name s lines s' before s₀ behind) {key : Key}
    (hnone : ∀ e ∈ lines, e.told name key = none) :
    lines.reverse.findSome? (Moment.written key) =
      before.reverse.findSome? (Moment.written key) := by
  have hbehind : behind.reverse.findSome? (Moment.written key) = none := by
    refine List.findSome?_eq_none_iff.mpr fun e he => ?_
    obtain ⟨j, hj⟩ := List.mem_iff_getElem?.mp (List.mem_reverse.mp he)
    cases e with
    | merging t c =>
      have hat : lines[before.length + (j + 1)]? = some (.merging t c) := by
        rw [h.split, List.getElem?_append_right (Nat.le_add_right _ _), Nat.add_sub_cancel_left]
        exact hj
      obtain ⟨k, -, hk⟩ := h.calling_of_merging (by omega) hat
      have htold := hnone _ (List.mem_of_getElem? hk)
      rwa [Moment.told, if_pos rfl] at htold
    | _ => rfl
  rw [h.findSome?_reverse rfl, hbehind, Option.none_or]

/-- The last merge that tells a listener of a key begins no later than the last that writes it. -/
theorem last_written_told (h : Joined name s lines s' before s₀ behind) {key : Key} {x : Json}
    (htold : lines.reverse.findSome? (Moment.told name key) = some x) :
    ∃ (i j k : Nat) (t u : Store Key) (c d : State) (y : Json), i ≤ j ∧ j < k ∧
      lines[i]? = some (.merging t c) ∧ c.get? key = some x ∧ d.get? key = some y ∧
      LastAt (Moment.written key) lines j (.merging u d) ∧
      LastAt (Moment.told name key) lines k (.calling (begun (lines.take i)) name c) := by
  obtain ⟨k, e, hk, hx⟩ := findSome?_reverse_eq_some_iff.mp htold
  obtain ⟨n, c, rfl⟩ : ∃ n c, e = .calling n name c := by
    cases e with
    | calling n l c =>
      by_cases hl : l = name
      · exact ⟨n, c, by rw [hl]⟩
      · simp [Moment.told, hl] at hx
    | _ => cases hx
  rw [Moment.told, if_pos rfl] at hx
  obtain ⟨i, t, hi, hik, rfl, hmerging⟩ := h.merging_of_calling hk.1
  obtain ⟨y, hy⟩ : ∃ y, lines.reverse.findSome? (Moment.written key) = some y := by
    refine Option.isSome_iff_exists.mp (List.findSome?_isSome_iff.mpr ⟨.merging t c, ?_, ?_⟩)
    · exact List.mem_reverse.mpr (List.mem_of_getElem? hmerging)
    · rw [Moment.written, hx]
      rfl
  obtain ⟨j, e, hj, hy⟩ := findSome?_reverse_eq_some_iff.mp hy
  obtain ⟨u, d, rfl⟩ : ∃ u d, e = .merging u d := by
    cases e with
    | merging u d => exact ⟨u, d, rfl⟩
    | _ => cases hy
  have hij : i ≤ j := by
    refine Nat.le_of_not_lt fun hji => ?_
    have hnone := hj.2 i _ hji hmerging
    rw [Moment.written, hx] at hnone
    cases hnone
  -- the last merge to write the key tells of it as well, so the last time it is told is no earlier
  obtain ⟨k', hjk', hk'⟩ := h.calling_of_merging (Nat.lt_of_lt_of_le hi hij) hj.1
  have hkk' : k' ≤ k := by
    refine Nat.le_of_not_lt fun hlt => ?_
    have hnone := hk.2 k' _ hlt hk'
    rw [Moment.told, if_pos rfl, show d.get? key = some y from hy] at hnone
    cases hnone
  exact ⟨i, j, k, t, u, c, d, y, hij, Nat.lt_of_lt_of_le hjk' hkk', hmerging, hx, hy, hj, hk⟩

/-- The store holds what was last written, and else what it held at the beginning. -/
theorem get?_values (h : Joined name s lines s' before s₀ behind) (key : Key) :
    s'.values.get? key =
      (lines.reverse.findSome? (Moment.written key)).or (s.values.get? key) := by
  rw [← h.segment.leaves]
  exact get?_replay s key h.kept

section

variable {copy : State} {key : Key}

/-- Under an overtaken key, a copy has the older value, and the store the one that replaced it. -/
theorem get?_of_overtaken (h : Joined name s lines s' before s₀ behind)
    (hcopy : copyOf name lines = some copy) {x y : Json} (hkey : Overtaken name key x y lines) :
    copy.get? key = some x ∧ s'.values.get? key = some y := by
  obtain ⟨copy', hcopy', hget⟩ := h.get?_copyOf
  obtain rfl := Option.some.inj (hcopy.symm.trans hcopy')
  obtain ⟨i, j, k, t, u, c, d, -, -, -, -, hx, hy, hj, hk⟩ := hkey
  have htold := findSome?_reverse_eq_some_iff.mpr ⟨k, _, hk, (if_pos rfl).trans hx⟩
  have hwritten := findSome?_reverse_eq_some_iff.mpr ⟨j, _, hj, hy⟩
  rw [hget, htold, h.get?_values, hwritten]
  exact ⟨rfl, rfl⟩

/-- Under any other key, a copy and the store agree. -/
theorem get?_of_not_overtaken (h : Joined name s lines s' before s₀ behind)
    (hcopy : copyOf name lines = some copy) (hkey : ∀ x y, ¬ Overtaken name key x y lines) :
    copy.get? key = s'.values.get? key := by
  obtain ⟨copy', hcopy', hget⟩ := h.get?_copyOf
  obtain rfl := Option.some.inj (hcopy.symm.trans hcopy')
  rw [hget, h.get?_values]
  cases htold : lines.reverse.findSome? (Moment.told name key) with
  | none =>
    have hnone : ∀ e ∈ lines, e.told name key = none := fun e he =>
      List.findSome?_eq_none_iff.mp htold e (List.mem_reverse.mpr he)
    rw [h.written_of_untold hnone, Option.none_or]
  | some x =>
    obtain ⟨i, j, k, t, u, c, d, y, hij, hjk, hi, hx, hy, hj, hk⟩ := h.last_written_told htold
    rw [findSome?_reverse_eq_some_iff.mpr ⟨j, _, hj, hy⟩, Option.some_or, Option.some_or,
      Option.some.injEq]
    refine Decidable.byContradiction fun hne => hkey x y ?_
    have hlt : i < j := by
      refine Nat.lt_of_le_of_ne hij ?_
      rintro rfl
      cases Option.some.inj (hi.symm.trans hj.1)
      exact hne (Option.some.inj (hx.symm.trans hy))
    exact ⟨i, j, k, t, u, c, d, hlt, hjk, hne, hi, hx, hy, hj, hk⟩

end

end Joined

/--
**A copy and the store differ in the keys that are overtaken, and in no others.** The listener is
registered once and stays so, nobody fails and the store is not disposed of. Under a key that is
overtaken the copy has the older value, that of the merge that its listener was told of last.
-/
theorem copy_agrees_iff (react : Reaction σ) (depth : Nat) (ops : List (Op σ)) (w : Watched σ)
    (name : Key) (hnew : name ∉ w.store.listeners)
    (honce : (journal react depth ops w).countP (Moment.joins name) = 1)
    (hstays : (journal react depth ops w).any (Moment.releases name) = false)
    (hok : (journal react depth ops w).any Moment.fails = false) :
    ∃ copy, copyOf name (journal react depth ops w) = some copy ∧ ∀ key,
      (copy.get? key = (run react depth ops w).store.values.get? key ↔
        ∀ x y, ¬ Overtaken name key x y (journal react depth ops w)) ∧
      ∀ x y, Overtaken name key x y (journal react depth ops w) →
        copy.get? key = some x ∧ (run react depth ops w).store.values.get? key = some y := by
  have hlines := segment_journal react depth ops w
  obtain ⟨before, s₀, behind, h⟩ := Joined.of_countP hlines hnew honce hstays hok
  obtain ⟨copy, hcopy, -⟩ := h.get?_copyOf
  refine ⟨copy, hcopy, fun key => ⟨⟨fun hsame x y hkey => ?_, h.get?_of_not_overtaken hcopy⟩,
    fun x y hkey => h.get?_of_overtaken hcopy hkey⟩⟩
  obtain ⟨hx, hy⟩ := h.get?_of_overtaken hcopy hkey
  rw [hx, hy, Option.some.injEq] at hsame
  obtain ⟨_, _, _, _, _, _, _, -, -, hne, -⟩ := hkey
  exact hne hsame

/-- One listener replaces a value as soon as it is told of it. -/
def replacingListener : Reaction Unit := fun name changes _ =>
  if name = .text "a" ∧ changes.get? (.text "x") = some (.int 1) then
    .ask (.merge (.obj [("x", .int 2)])) fun _ _ => .done
  else .done

/-- Registers it in front of another one, and merges once. -/
def replacingRun : List (Op Unit) :=
  [.subscribe (.text "a"), .subscribe (.text "b"), .merge (.obj [("x", .int 1), ("y", .int 3)])]

/-- The listener behind keeps up with one of two keys. -/
theorem copy_agrees_iff_replaced :
    let lines := journal replacingListener 3 replacingRun ⟨Store.new ∅, ()⟩
    ∃ copy, copyOf (.text "b") lines = some copy ∧ copy.keys = [.text "x", .text "y"] ∧
      Overtaken (.text "b") (.text "x") (.int 1) (.int 2) lines ∧
      ∀ x y, ¬ Overtaken (.text "b") (.text "y") x y lines := by
  obtain ⟨copy, hcopy, hget⟩ := copy_agrees_iff replacingListener 3 replacingRun ⟨Store.new ∅, ()⟩
    (.text "b") List.not_mem_nil rfl rfl rfl
  cases Option.some.inj hcopy
  refine ⟨_, rfl, rfl, ?_, (hget (.text "y")).1.mp rfl⟩
  have hdiffers := mt (hget (.text "x")).1.mpr (by decide)
  simp only [not_forall, not_not] at hdiffers
  obtain ⟨x, y, hkey⟩ := hdiffers
  obtain ⟨hx, hy⟩ := (hget (.text "x")).2 x y hkey
  cases hx
  cases hy
  exact hkey

/-- The listener behind is told of the older value last: its copy has it, while the store has
not. -/
theorem copy_falls_behind :
    let w : Watched Unit := ⟨Store.new ∅, ()⟩
    let lines := journal replacingListener 3 replacingRun w
    .text "b" ∉ w.store.listeners ∧ lines.countP (Moment.joins (.text "b")) = 1 ∧
      lines.any (Moment.releases (.text "b")) = false ∧ lines.any Moment.fails = false ∧
      (copyOf (.text "b") lines).map (fun c => c.get? (.text "x")) = some (some (.int 1)) ∧
      (run replacingListener 3 replacingRun w).store.values.get? (.text "x") = some (.int 2) :=
  ⟨List.not_mem_nil, rfl, rfl, rfl, rfl, rfl⟩

end AssistantUI.Watched
