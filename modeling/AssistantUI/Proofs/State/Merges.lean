import AssistantUI.Proofs.Dict
import AssistantUI.Proofs.State.Segments
import Mathlib.Data.List.DropRight

/-!
# What merges leave and whom they call

Rounds of listeners nest in each other and may be cut short, while registrations change under them.
Two things hold all the same. The values are those of all merges that have begun, one written over
the other in the order in which they began: a merge writes before anyone is called, and nothing
takes its changes back but a disposal. And a merge calls those that were registered when it began,
in turn and with its own changes, because it keeps to the list that it found.
-/

namespace AssistantUI.Watched

variable {σ : Type}

/-! ## Values -/

/-- Is the store disposed of here? -/
def Moment.disposes : Moment σ → Bool
  | disposing => true
  | _ => false

/-- What was merged since the store was last disposed of, the earliest first. -/
def mergedSince (journal : List (Moment σ)) : List State :=
  (merges (journal.rtakeWhile fun e => !e.disposes)).map Prod.snd

/-- What the store held before that: nothing, if it was ever disposed of. -/
def valuesBefore (initial : State) (journal : List (Moment σ)) : State :=
  if journal.any Moment.disposes then ∅ else initial

theorem mergedSince_concat (journal : List (Moment σ)) (e : Moment σ) :
    mergedSince (journal ++ [e]) =
      if e.disposes then [] else mergedSince journal ++ (merges [e]).map Prod.snd := by
  unfold mergedSince
  rw [List.rtakeWhile_concat]
  cases e.disposes with
  | true => rfl
  | false =>
    show (merges (_ ++ [e])).map Prod.snd = _
    rw [merges_append, List.map_append]
    rfl

theorem valuesBefore_concat (initial : State) (journal : List (Moment σ)) (e : Moment σ) :
    valuesBefore initial (journal ++ [e]) =
      if e.disposes then ∅ else valuesBefore initial journal := by
  unfold valuesBefore
  rw [List.any_append, List.any_cons, List.any_nil, Bool.or_false]
  cases e.disposes with
  | true => simp
  | false => simp

/-- The values are those of the merges since the last disposal, written one over the other. -/
theorem values_replay (s : Store Key) (journal : List (Moment σ)) :
    (replay s journal).values =
      (mergedSince journal).foldl Dict.update (valuesBefore s.values journal) := by
  induction journal using List.reverseRecOn with
  | nil => rfl
  | append_singleton journal e ih =>
    rw [replay_append, mergedSince_concat, valuesBefore_concat]
    cases e with
    | disposing => rfl
    | merging t changes =>
      show (replay s journal).values.update changes =
        List.foldl Dict.update (valuesBefore s.values journal) (mergedSince journal ++ [changes])
      rw [ih, List.foldl_append]
      rfl
    | _ =>
      show (replay s journal).values =
        List.foldl Dict.update (valuesBefore s.values journal) (mergedSince journal ++ [])
      rw [ih, List.append_nil]

/-! ## What a merge writes into a journal -/

/--
Empty changes are no merge at all: nothing is written, and nobody is called. Any others begin to be
merged into the store as it is.
-/
theorem Recorded.runIn_perform_merge {changes : Json} {c : State}
    (hc : changes.toDictOrEmpty = .ok c) (react : Reaction σ) (depth : Nat) (r : Recorded σ) :
    let p := (perform react (depth + 1) (.merge changes)).runIn r
    (c.isEmpty = true → p = (.ok (), r)) ∧
      (c.isEmpty = false →
        ∃ more, p.2.journal = r.journal ++ .merging r.world.store c :: more) := by
  have hperform : (perform react (depth + 1) (.merge changes)).runIn r =
      (merge (callListener react depth) c).runIn r := by
    unfold perform performWith
    dsimp only
    rw [hc]
    rfl
  rw [hperform]
  refine ⟨fun hempty => if_pos hempty, fun hchanges => ?_⟩
  obtain ⟨-, -, lines, -, hjournal, -⟩ :=
    notify_records (callListener_records (perform_records react depth)) (begun r.journal) c
      r.world.store.listeners (r.move (.merging r.world.store c))
      (by rw [begun_move_merging]; exact Nat.lt_succ_self _)
  rw [runIn_merge hchanges]
  exact ⟨lines, hjournal.trans (List.append_assoc ..)⟩

/-- **The values are those of all merges that have begun, and a merge calls those it found.** -/
theorem merges_heard_in_turn (react : Reaction σ) (depth : Nat) (ops : List (Op σ))
    (w : Watched σ) :
    let lines := journal react depth ops w
    -- the journal is that of the run
    (Recorded.run react depth ops ⟨w, []⟩).world = run react depth ops w ∧
    -- the values, in the end and wherever the store is seen
    (run react depth ops w).store.values =
      (mergedSince lines).foldl Dict.update (valuesBefore w.store.values lines) ∧
    (∀ (k : Nat) (e : Moment σ) (s : Store Key), lines[k]? = some e → e.store? = some s →
      s.values = (mergedSince (lines.take k)).foldl Dict.update
        (valuesBefore w.store.values (lines.take k))) ∧
    (∀ d c : State, (∀ key, (d.update c).get? key = (c.get? key).or (d.get? key)) ∧
      (d.update c).keys = d.keys ++ c.keys.filter fun key => !d.contains key) ∧
    -- a merge begins, unless its changes are empty
    (∀ (changes : Json) (c : State) (depth : Nat) (r : Recorded σ),
      changes.toDictOrEmpty = .ok c →
        let p := (Recorded.perform react (depth + 1) (.merge changes)).runIn r
        (c.isEmpty = true → p = (.ok (), r)) ∧
          (c.isEmpty = false →
            ∃ more, p.2.journal = r.journal ++ .merging r.world.store c :: more)) ∧
    -- each merge calls the listeners it found, and nobody is called but by a merge that has begun
    (∀ (number : Nat) (s : Store Key) (c : State), (merges lines)[number]? = some (s, c) →
      Completed lines number s c) ∧
    (∀ (k : Nat) (e : Moment σ) (number : Nat), lines[k]? = some e → e.isOf number = true →
      number < begun (lines.take k)) := by
  have hlines := segment_journal react depth ops w
  refine ⟨world_recorded react depth ops w, ?_, fun k e s hk hs => ?_, fun d c => ?_,
    fun changes c depth r hc => Recorded.runIn_perform_merge hc react depth r, ?_, ?_⟩
  · rw [← hlines.leaves, values_replay]
  · rw [hlines.shows k e s hk hs, values_replay]
  · exact ⟨Dict.get?_update d c, Dict.keys_update d c⟩
  · intro number s c hmerge
    have h := hlines.completed number s c hmerge
    rwa [Nat.zero_add] at h
  · intro k e number hk hof
    have h := hlines.begun k e number hk hof
    rwa [Nat.zero_add] at h

/-- One listener merges again and takes back another one, and a third fails. -/
def unrulyListeners : Reaction Unit := fun name changes _ =>
  if name = .text "failing" then .raise (.failure "enough")
  else if name = .text "again" ∧ changes.contains (.text "x") then
    .ask (.merge (.obj [("y", .int 2)])) fun _ _ =>
      .ask (.unsubscribe (.text "late")) fun _ _ => .done
  else .done

/-- Registers the listeners, and merges once. -/
def unrulyRun : List (Op Unit) :=
  (["again", "late", "failing", "never"].map fun name => .subscribe (.text name)) ++
    [.merge (.obj [("x", .int 1)])]

/-- Both merges, one inside the other, are cut short by the third of four listeners. -/
theorem merges_heard_in_turn_unruly :
    let lines := journal unrulyListeners 3 unrulyRun ⟨Store.new ∅, ()⟩
    ∃ w s t c d, lines[26]? = some (.seeing w) ∧
      w.store.values = (mergedSince (lines.take 26)).foldl Dict.update ∅ ∧
      (mergedSince (lines.take 26)).map Dict.keys = [[.text "x"], [.text "y"]] ∧
      merges lines = [(s, c), (t, d)] ∧ s.listeners.length = 4 ∧ t.listeners.length = 4 ∧
      Completed lines 0 s c ∧ Completed lines 1 t d ∧
      (lines.filter (Moment.isOf 0)).length = 6 ∧ (lines.filter (Moment.isOf 1)).length = 6 := by
  obtain ⟨-, -, hvalues, -, -, hcompleted, -⟩ :=
    merges_heard_in_turn unrulyListeners 3 unrulyRun ⟨Store.new ∅, ()⟩
  exact ⟨_, _, _, _, _, rfl, hvalues 26 _ _ rfl rfl, rfl, rfl, rfl, rfl, hcompleted 0 _ _ rfl,
    hcompleted 1 _ _ rfl, rfl, rfl⟩

end AssistantUI.Watched
