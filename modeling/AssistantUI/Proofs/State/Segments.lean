import AssistantUI.Proofs.State.Journal

/-!
# What is written into the journal of a store

`Recorded.perform_records` says once what an operation does in a recorded world: the same as
unrecorded, and its lines form a `Segment`. In a segment the store is at every line what the lines
before have made of it, and every merge that begins there calls its listeners in turn. The lines of
a merge stay apart from those of the merges inside it because merges are numbered.

Segments are put together from single lines, so the induction over the code of listeners and over
the nesting of calls is made here only. Whatever is to be known of a run is then read off its
journal (`segment_journal`).
-/

namespace AssistantUI.Watched

variable {σ : Type}

/-! ## Segments of a journal -/

/-- Listeners are called in turn, up to the first that fails; `heard` says who was, and the ends. -/
inductive InTurn : List Key → List (Key × Except Fault Unit) → Prop where
  | nil : InTurn [] []
  | ok {name : Key} {rest : List Key} {heard : List (Key × Except Fault Unit)} :
      InTurn rest heard → InTurn (name :: rest) ((name, .ok ()) :: heard)
  | error {name : Key} {rest : List Key} (f : Fault) : InTurn (name :: rest) [(name, .error f)]

/-- A merge of that number is gone through in a journal: it calls its listeners in turn. -/
structure Completed (journal : List (Moment σ)) (number : Nat) (store : Store Key)
    (changes : State) : Prop where
  nonempty : changes.isEmpty = false
  calls : ∃ heard, InTurn store.listeners heard ∧
    journal.filter (Moment.isOf number) = heard.flatMap (Moment.visit number changes)

/--
What is written while a store changes from one to another, when a number of merges have begun
already. Calls are those of merges that begin in the segment, or of one more, which is under way.
-/
structure Segment (underWay : Option Nat) (number : Nat) (s : Store Key)
    (lines : List (Moment σ)) (s' : Store Key) : Prop where
  leaves : replay s lines = s'
  /-- Wherever the store is seen, it is what the lines before have made of it. -/
  shows : ∀ (k : Nat) (e : Moment σ) (t : Store Key), lines[k]? = some e → e.store? = some t →
    t = replay s (lines.take k)
  /-- Only merges that have begun call listeners. -/
  begun : ∀ (k : Nat) (e : Moment σ) (n : Nat), lines[k]? = some e → e.isOf n = true →
    n < number + begun (lines.take k)
  own : ∀ e ∈ lines, ∀ n, e.isOf n = true → underWay = some n ∨ number ≤ n
  completed : ∀ (i : Nat) (t : Store Key) (changes : State),
    (merges lines)[i]? = some (t, changes) → Completed lines (number + i) t changes

section

variable {a b lines : List (Moment σ)} {s t u : Store Key} {number n : Nat} {underWay : Option Nat}

theorem merges_append (a b : List (Moment σ)) : merges (a ++ b) = merges a ++ merges b :=
  List.filterMap_append

theorem begun_append (a b : List (Moment σ)) : begun (a ++ b) = begun a + begun b := by
  rw [begun, merges_append, List.length_append]
  rfl

theorem replay_append (s : Store Key) (a b : List (Moment σ)) :
    replay s (a ++ b) = replay (replay s a) b := List.foldl_append

theorem begun_take_le (lines : List (Moment σ)) (k : Nat) :
    begun (lines.take k) ≤ begun lines := by
  have h := begun_append (lines.take k) (lines.drop k)
  rw [List.take_append_drop] at h
  omega

/-- A line of two journals put together is in the first, or in the second behind all of it. -/
theorem getElem?_append_cases {k : Nat} {e : Moment σ} (h : (a ++ b)[k]? = some e) :
    (a[k]? = some e ∧ (a ++ b).take k = a.take k) ∨
      ∃ j, k = a.length + j ∧ b[j]? = some e ∧ (a ++ b).take k = a ++ b.take j := by
  by_cases hk : k < a.length
  · rw [List.getElem?_append_left hk] at h
    exact Or.inl ⟨h, List.take_append_of_le_length (Nat.le_of_lt hk)⟩
  · obtain ⟨j, rfl⟩ := Nat.exists_eq_add_of_le (Nat.le_of_not_lt hk)
    rw [List.getElem?_append_right (Nat.le_add_right _ _), Nat.add_sub_cancel_left] at h
    exact Or.inr ⟨j, rfl, h, by rw [List.take_length_add_append]⟩

namespace Segment

theorem nil (underWay : Option Nat) (number : Nat) (s : Store Key) :
    Segment underWay number s ([] : List (Moment σ)) s where
  leaves := rfl
  shows _ _ _ := nofun
  begun _ _ _ := nofun
  own _ := nofun
  completed _ _ _ := nofun

/-- A merge calls nobody in lines that are about other merges. -/
theorem filter_of_ne (h : Segment underWay number s lines t) (hn : underWay ≠ some n)
    (hlt : n < number) : lines.filter (Moment.isOf n) = [] := by
  refine List.filter_eq_nil_iff.mpr fun e he hof => ?_
  rcases h.own e he n hof with heq | hle
  · exact hn heq
  · omega

/-- A merge calls nobody before it begins. -/
theorem filter_of_le (h : Segment underWay number s lines t)
    (hle : number + Watched.begun lines ≤ n) : lines.filter (Moment.isOf n) = [] := by
  refine List.filter_eq_nil_iff.mpr fun e he hof => ?_
  obtain ⟨k, hk⟩ := List.mem_iff_getElem?.mp he
  have hlt := h.begun k e n hk hof
  have := begun_take_le lines k
  omega

theorem append (h : Segment underWay number s a t)
    (h' : Segment underWay (number + Watched.begun a) t b u)
    (hunderWay : ∀ n, underWay = some n → n < number) :
    Segment underWay number s (a ++ b) u where
  leaves := by rw [replay_append, h.leaves, h'.leaves]
  shows k e v hk hv := by
    rcases getElem?_append_cases hk with ⟨hk, htake⟩ | ⟨j, -, hj, htake⟩
    · rw [htake]
      exact h.shows k e v hk hv
    · rw [htake, replay_append, h.leaves]
      exact h'.shows j e v hj hv
  begun k e n hk hn := by
    rcases getElem?_append_cases hk with ⟨hk, htake⟩ | ⟨j, -, hj, htake⟩
    · rw [htake]
      exact h.begun k e n hk hn
    · rw [htake, begun_append, ← Nat.add_assoc]
      exact h'.begun j e n hj hn
  own e he n hn := by
    rcases List.mem_append.mp he with he | he
    · exact h.own e he n hn
    · exact (h'.own e he n hn).imp_right fun hle => by omega
  completed i v changes hi := by
    rw [merges_append] at hi
    by_cases hlt : i < (merges a).length
    · -- nothing that is written later is about a merge of the first part
      rw [List.getElem?_append_left hlt] at hi
      obtain ⟨hchanges, heard, hturn, hcalls⟩ := h.completed i v changes hi
      have hlater : b.filter (Moment.isOf (number + i)) = [] :=
        h'.filter_of_ne (fun heq => by have := hunderWay _ heq; omega)
          (by unfold Watched.begun; omega)
      refine ⟨hchanges, heard, hturn, ?_⟩
      rw [List.filter_append, hlater, List.append_nil, hcalls]
    · rw [List.getElem?_append_right (by omega)] at hi
      obtain ⟨hchanges, heard, hturn, hcalls⟩ := h'.completed _ v changes hi
      have hnumber : number + Watched.begun a + (i - (merges a).length) = number + i := by
        unfold Watched.begun
        omega
      rw [hnumber] at hcalls
      have hearlier : a.filter (Moment.isOf (number + i)) = [] :=
        h.filter_of_le (by unfold Watched.begun; omega)
      refine ⟨hchanges, heard, hturn, ?_⟩
      rw [List.filter_append, hearlier, List.nil_append, hcalls]

/-- A line by itself, if no merge begins with it. -/
theorem single {e : Moment σ} (hmerge : e.merge? = none)
    (hstore : ∀ t, e.store? = some t → t = s)
    (hof : ∀ n, e.isOf n = true → underWay = some n ∧ n < number) :
    Segment underWay number s [e] (e.act s) where
  leaves := rfl
  shows k e' t hk ht := by
    obtain ⟨hlt, rfl⟩ := List.getElem?_eq_some_iff.mp hk
    obtain rfl : k = 0 := by simpa using hlt
    exact hstore t ht
  begun k e' n hk hn := by
    obtain ⟨hlt, rfl⟩ := List.getElem?_eq_some_iff.mp hk
    obtain rfl : k = 0 := by simpa using hlt
    exact Nat.lt_of_lt_of_le (hof n hn).2 (Nat.le_add_right _ _)
  own e' he n hn := by
    rw [List.mem_singleton.mp he] at hn
    exact Or.inl (hof n hn).1
  completed i t changes hi := by
    rw [merges, List.filterMap_cons_none hmerge] at hi
    cases hi

/-- Lines that only speak of merges that begin in them, beside a merge under way. -/
theorem aside (h : Segment none number s lines t) (underWay : Option Nat) :
    Segment underWay number s lines t where
  leaves := h.leaves
  shows := h.shows
  begun := h.begun
  own e he n hn := Or.inr ((h.own e he n hn).resolve_left nofun)
  completed := h.completed

/-- The beginning of a merge, and the calls that it leads to. -/
theorem merging {changes : State} {heard : List (Key × Except Fault Unit)}
    (hchanges : changes.isEmpty = false)
    (h : Segment (some number) (number + 1) (s.write changes) lines t)
    (hturn : InTurn s.listeners heard)
    (hcalls : lines.filter (Moment.isOf number) = heard.flatMap (Moment.visit number changes)) :
    Segment none number s (.merging s changes :: lines) t where
  leaves := h.leaves
  shows k e u hk hu := by
    cases k with
    | zero =>
      cases Option.some.inj hk
      exact (Option.some.inj hu).symm
    | succ k => exact h.shows k e u hk hu
  begun k e n hk hn := by
    cases k with
    | zero =>
      cases Option.some.inj hk
      cases hn
    | succ k =>
      have hlt := h.begun k e n hk hn
      have hcons : Watched.begun ((Moment.merging s changes :: lines).take (k + 1)) =
          Watched.begun (lines.take k) + 1 := rfl
      omega
  own e he n hn := by
    rcases List.mem_cons.mp he with rfl | he
    · cases hn
    · rcases h.own e he n hn with heq | hle
      · exact Or.inr (Nat.le_of_eq (Option.some.inj heq))
      · exact Or.inr (by omega)
  completed i u c hi := by
    cases i with
    | zero =>
      cases Option.some.inj hi
      exact ⟨hchanges, heard, hturn, hcalls⟩
    | succ i =>
      obtain ⟨hc, heard', hturn', hcalls'⟩ := h.completed i u c hi
      have hnumber : number + 1 + i = number + (i + 1) := by omega
      exact ⟨hc, heard', hturn', hnumber ▸ hcalls'⟩

end Segment

end

/-! ## What is recorded -/

/-- From a recorded world, an act does what the plain one does, and writes a segment. -/
structure Records {α : Type} (a : Act (Recorded σ) α) (b : Act (Watched σ) α)
    (r : Recorded σ) : Prop where
  result : (a.runIn r).1 = (b.runIn r.world).1
  world : (a.runIn r).2.world = (b.runIn r.world).2
  lines : ∃ lines, (a.runIn r).2.journal = r.journal ++ lines ∧
    Segment none (begun r.journal) r.world.store lines (a.runIn r).2.world.store

namespace Recorded

theorem records_same {α : Type} {x : Except Fault α} {r : Recorded σ} :
    Records (fun r => (x, r)) (fun w => (x, w)) r :=
  ⟨rfl, rfl, [], (List.append_nil _).symm, .nil ..⟩

/-- A line about the store, if it is not about a merge. -/
theorem records_move {r : Recorded σ} {e : Moment σ} (hmerge : e.merge? = none)
    (hstore : ∀ t, e.store? = some t → t = r.world.store) (hof : ∀ n, e.isOf n = false) :
    Segment none (begun r.journal) r.world.store [e] (r.move e).world.store :=
  .single hmerge hstore fun n hn => by rw [hof n] at hn; cases hn

theorem segment_see (number : Nat) (r : Recorded σ) :
    Segment none number r.world.store [.seeing r.world] r.see.world.store :=
  .single rfl (fun _ ht => (Option.some.inj ht).symm) fun _ => nofun

/-- A merge that is one begins with its line, and then its round is under way. -/
theorem runIn_merge {call : Key → State → Act (Recorded σ) Unit} {changes : State}
    (hchanges : changes.isEmpty = false) (r : Recorded σ) :
    (merge call changes).runIn r =
      (Store.notify (tell call (begun r.journal)) changes r.world.store.listeners).runIn
        (r.move (.merging r.world.store changes)) :=
  if_neg (by rw [hchanges]; exact Bool.false_ne_true)

theorem begun_move_merging (r : Recorded σ) (changes : State) :
    begun (r.move (.merging r.world.store changes)).journal = begun r.journal + 1 :=
  begun_append ..

section

variable {call : Key → State → Act (Recorded σ) Unit} {call' : Key → State → Act (Watched σ) Unit}
  (hcall : ∀ name changes r, Records (call name changes) (call' name changes) r)
include hcall

/-- A listener is called, does what it does, and comes to an end. -/
theorem tell_records {number : Nat} (name : Key) (changes : State) {r : Recorded σ}
    (hnumber : number < begun r.journal) :
    let p := (tell call number name changes).runIn r
    let q := (call' name changes).runIn r.world
    p.1 = q.1 ∧ p.2.world = q.2 ∧ ∃ lines, p.2.journal = r.journal ++ lines ∧
      Segment (some number) (begun r.journal) r.world.store lines p.2.world.store ∧
      lines.filter (Moment.isOf number) = Moment.visit number changes (name, p.1) := by
  obtain ⟨hresult, hworld, lines, hjournal, hlines⟩ :=
    hcall name changes (r.note (.calling number name changes))
  have hbegun : begun (r.note (.calling number name changes)).journal = begun r.journal := by
    rw [note, begun_append]
    rfl
  rw [hbegun] at hlines
  have hof : ∀ n, (number == n) = true → some number = some n ∧ n < begun r.journal := by
    intro n hn
    rw [← eq_of_beq hn]
    exact ⟨rfl, hnumber⟩
  have hunderWay : ∀ n, some number = some n → n < begun r.journal := by
    rintro n ⟨⟩
    exact hnumber
  unfold tell
  dsimp only [Act.runIn] at hresult hworld hjournal hlines ⊢
  generalize call name changes (r.note (.calling number name changes)) = answered at *
  obtain ⟨result, r'⟩ := answered
  -- the line before the call, what the listener writes, and the line behind it
  have hbefore : Segment (some number) (begun r.journal) r.world.store
      [(.calling number name changes : Moment σ)] r.world.store := .single rfl (fun _ => nofun) hof
  have hbehind : Segment (some number) (begun r.journal + begun lines) r'.world.store
      [(.called number name result : Moment σ)] r'.world.store :=
    .single rfl (fun _ => nofun) fun n hn =>
      ⟨(hof n hn).1, Nat.lt_of_lt_of_le (hof n hn).2 (Nat.le_add_right _ _)⟩
  refine ⟨hresult, hworld, .calling number name changes :: (lines ++ [.called number name result]),
    ?_, hbefore.append ((hlines.aside _).append hbehind hunderWay) hunderWay, ?_⟩
  · show r'.journal ++ _ = _
    rw [hjournal, note, List.append_assoc, List.append_assoc]
    rfl
  · rw [List.filter_cons_of_pos (by simp [Moment.isOf]), List.filter_append,
      hlines.filter_of_ne nofun hnumber, List.nil_append,
      List.filter_cons_of_pos (by simp [Moment.isOf])]
    rfl

/-- The round of a merge that is under way calls its listeners in turn. -/
theorem notify_records (number : Nat) (changes : State) (listeners : List Key) (r : Recorded σ)
    (hnumber : number < begun r.journal) :
    let p := (Store.notify (tell call number) changes listeners).runIn r
    let q := (Store.notify call' changes listeners).runIn r.world
    p.1 = q.1 ∧ p.2.world = q.2 ∧ ∃ lines heard, p.2.journal = r.journal ++ lines ∧
      Segment (some number) (begun r.journal) r.world.store lines p.2.world.store ∧
      InTurn listeners heard ∧
      lines.filter (Moment.isOf number) = heard.flatMap (Moment.visit number changes) := by
  induction listeners generalizing r with
  | nil => exact ⟨rfl, rfl, [], [], (List.append_nil _).symm, .nil .., .nil, rfl⟩
  | cons name rest ih =>
    obtain ⟨hresult, hworld, lines, hjournal, hlines, hcalls⟩ :=
      tell_records hcall name changes hnumber
    unfold Store.notify
    simp only [Act.runIn_bind]
    generalize (tell call number name changes).runIn r = told at *
    generalize (call' name changes).runIn r.world = told' at *
    obtain ⟨result, r'⟩ := told
    obtain ⟨result', w'⟩ := told'
    obtain ⟨rfl, rfl⟩ : result = result' ∧ r'.world = w' := ⟨hresult, hworld⟩
    cases result with
    | error f =>
      -- the round ends here
      exact ⟨rfl, rfl, lines, [(name, .error f)], hjournal, hlines, .error f, by rw [hcalls]; rfl⟩
    | ok x =>
      have hbegun : begun r'.journal = begun r.journal + begun lines := by
        rw [show r'.journal = _ from hjournal, begun_append]
      obtain ⟨hresult', hworld', lines', heard, hjournal', hlines', hturn, hcalls'⟩ :=
        ih r' (by omega)
      rw [hbegun] at hlines'
      refine ⟨hresult', hworld', lines ++ lines', (name, .ok ()) :: heard, ?_, ?_, .ok hturn, ?_⟩
      · rw [hjournal', show r'.journal = _ from hjournal, List.append_assoc]
      · refine hlines.append hlines' ?_
        rintro n ⟨⟩
        exact hnumber
      · rw [List.filter_append, hcalls, hcalls']
        rfl

theorem merge_records (changes : State) (r : Recorded σ) :
    Records (merge call changes)
      (Store.merge Watched.store (fun w s => { w with store := s }) call' changes) r := by
  by_cases hchanges : changes.isEmpty = true
  · have hleft : (merge call changes).runIn r = (.ok (), r) := if_pos hchanges
    have hright : (Store.merge Watched.store (fun w s => { w with store := s }) call'
        changes).runIn r.world = (.ok (), r.world) := if_pos hchanges
    refine ⟨?_, ?_, ?_⟩
    · rw [hleft, hright]
    · rw [hleft, hright]
    · rw [hleft]
      exact ⟨[], (List.append_nil _).symm, .nil ..⟩
  · rw [Bool.not_eq_true] at hchanges
    -- the merge gets the number of those before it, and is under way from then on
    obtain ⟨hresult, hworld, lines, heard, hjournal, hlines, hturn, hcalls⟩ :=
      notify_records hcall (begun r.journal) changes r.world.store.listeners
        (r.move (.merging r.world.store changes)) (by rw [begun_move_merging]; omega)
    have hright : (Store.merge Watched.store (fun w s => { w with store := s }) call'
        changes).runIn r.world =
          (Store.notify call' changes r.world.store.listeners).runIn
            { r.world with store := r.world.store.write changes } :=
      if_neg (by rw [hchanges]; exact Bool.false_ne_true)
    rw [begun_move_merging] at hlines
    refine ⟨?_, ?_, .merging r.world.store changes :: lines, ?_, ?_⟩
    · rw [runIn_merge hchanges, hright]
      exact hresult
    · rw [runIn_merge hchanges, hright]
      exact hworld
    · rw [runIn_merge hchanges, hjournal, move, note, List.append_assoc]
      rfl
    · rw [runIn_merge hchanges]
      exact .merging hchanges hlines hturn hcalls

end

/-! ## Runs -/

theorem performWith_records {react : Reaction σ} {depth : Nat}
    {call : Key → State → Act (Recorded σ) Unit}
    (hcall : ∀ name changes r, Records (call name changes)
      (fun w => (react name changes w).run (Watched.perform react depth) w) r)
    (op : Op σ) (r : Recorded σ) :
    Records (performWith call op) (Watched.perform react (depth + 1) op) r := by
  cases op with
  | merge changes =>
    unfold performWith Watched.perform
    dsimp only
    cases changes.toDictOrEmpty with
    | error f => exact records_same
    | ok d => exact merge_records hcall d r
  | subscribe name =>
    exact ⟨rfl, rfl, _, rfl, records_move rfl (fun _ ht => (Option.some.inj ht).symm) fun _ => rfl⟩
  | unsubscribe name => exact ⟨rfl, rfl, _, rfl, records_move rfl (fun _ => nofun) fun _ => rfl⟩
  | dispose => exact ⟨rfl, rfl, _, rfl, records_move rfl (fun _ => nofun) fun _ => rfl⟩
  | remember host => exact ⟨rfl, rfl, [], (List.append_nil _).symm, .nil ..⟩

theorem runCode_records {perform : Op σ → Act (Recorded σ) Unit}
    {perform' : Op σ → Act (Watched σ) Unit}
    (hperform : ∀ op r, Records (perform op) (perform' op) r)
    (code : Script (Watched σ) (Op σ) Unit) (r : Recorded σ) :
    Records (runCode perform code) (code.run perform') r := by
  induction code generalizing r with
  | done => exact records_same
  | raise f => exact records_same
  | ask op next ih =>
    obtain ⟨hresult, hworld, lines, hjournal, hlines⟩ := hperform op r
    dsimp only [Act.runIn] at hresult hworld hjournal hlines
    have hleft : (runCode perform (.ask op next)).runIn r =
        (runCode perform (next (perform op r).1 (perform op r).2.world)).runIn
          (perform op r).2.see := rfl
    have hright : ((Script.ask op next).run perform').runIn r.world =
        ((next (perform' op r.world).1 (perform' op r.world).2).run perform').runIn
          (perform' op r.world).2 := rfl
    rw [← hresult, ← hworld] at hright
    obtain ⟨hresult', hworld', lines', hjournal', hlines'⟩ :=
      ih (perform op r).1 (perform op r).2.world (perform op r).2.see
    refine ⟨?_, ?_, lines ++ (.seeing (perform op r).2.world :: lines'), ?_, ?_⟩
    · rw [hleft, hright]
      exact hresult'
    · rw [hleft, hright]
      exact hworld'
    · rw [hleft, hjournal', see, note, hjournal, List.append_assoc, List.append_assoc]
      rfl
    · have hbegun : begun (perform op r).2.see.journal = begun r.journal + begun lines := by
        rw [see, note, hjournal, begun_append, begun_append]
        rfl
      rw [hbegun] at hlines'
      rw [hleft]
      exact hlines.append ((segment_see _ _).append hlines' nofun) nofun

/-- Calls a listener, whose operations may nest so deeply. -/
def callListener (react : Reaction σ) (depth : Nat) (name : Key) (changes : State) :
    Act (Recorded σ) Unit :=
  fun r => runCode (perform react depth) (react name changes r.world) r.see

theorem callListener_records {react : Reaction σ} {depth : Nat}
    (hperform : ∀ op r, Records (perform react depth op) (Watched.perform react depth op) r)
    (name : Key) (changes : State) (r : Recorded σ) :
    Records (callListener react depth name changes)
      (fun w => (react name changes w).run (Watched.perform react depth) w) r := by
  obtain ⟨hresult, hworld, lines, hjournal, hlines⟩ :=
    runCode_records hperform (react name changes r.world) r.see
  have hbegun : begun r.see.journal = begun r.journal := begun_append ..
  rw [hbegun] at hlines
  refine ⟨hresult, hworld, .seeing r.world :: lines, ?_, (segment_see _ r).append hlines nofun⟩
  exact hjournal.trans (List.append_assoc ..)

/-- However deeply calls nest, an operation does what it does unrecorded. -/
theorem perform_records (react : Reaction σ) (depth : Nat) (op : Op σ) (r : Recorded σ) :
    Records (perform react depth op) (Watched.perform react depth op) r := by
  induction depth generalizing op r with
  | zero => exact records_same
  | succ depth ih => exact performWith_records (callListener_records ih) op r

theorem run_records (react : Reaction σ) (depth : Nat) (ops : List (Op σ)) (r : Recorded σ) :
    (run react depth ops r).world = Watched.run react depth ops r.world ∧
    ∃ lines, (run react depth ops r).journal = r.journal ++ lines ∧
      Segment none (begun r.journal) r.world.store lines (run react depth ops r).world.store := by
  induction ops generalizing r with
  | nil => exact ⟨rfl, [], (List.append_nil _).symm, .nil ..⟩
  | cons op rest ih =>
    obtain ⟨hresult, hworld, lines, hjournal, hlines⟩ := perform_records react depth op r
    generalize hanswered : ((perform react depth op).runIn r).2 = r' at hworld hjournal hlines
    have hrun : run react depth (op :: rest) r = run react depth rest r'.see := by
      rw [← hanswered]
      rfl
    obtain ⟨hworld', lines', hjournal', hlines'⟩ := ih r'.see
    have hbegun : begun r'.see.journal = begun r.journal + begun lines := by
      rw [see, note, hjournal, begun_append, begun_append]
      rfl
    rw [hbegun] at hlines'
    rw [hrun]
    refine ⟨?_, lines ++ (.seeing r'.world :: lines'), ?_, ?_⟩
    · rw [hworld', show r'.see.world = _ from hworld]
      rfl
    · rw [hjournal', see, note, hjournal, List.append_assoc, List.append_assoc]
      rfl
    · exact hlines.append ((segment_see _ r').append hlines' nofun) nofun

end Recorded

/-- Recording changes nothing of a run. -/
theorem world_recorded (react : Reaction σ) (depth : Nat) (ops : List (Op σ)) (w : Watched σ) :
    (Recorded.run react depth ops ⟨w, []⟩).world = run react depth ops w :=
  (Recorded.run_records react depth ops ⟨w, []⟩).1

/-- **The journal of a run is a segment** from the store at its beginning to that at its end. -/
theorem segment_journal (react : Reaction σ) (depth : Nat) (ops : List (Op σ)) (w : Watched σ) :
    Segment none 0 w.store (journal react depth ops w) (run react depth ops w).store := by
  obtain ⟨hworld, lines, hjournal, hlines⟩ := Recorded.run_records react depth ops ⟨w, []⟩
  rw [hworld] at hlines
  rw [journal, hjournal]
  exact hlines

end AssistantUI.Watched
