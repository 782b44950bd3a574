import Mathlib.Data.List.Count
import AssistantUI.Documents
import AssistantUI.Proofs.Dict

/-!
# What a query answers

A query takes the documents of one table that hold what it looks for, puts them in the order of
their timestamps, and cuts off what the limit does not leave. Documents with the same timestamp
stay in the order in which they came, also if the newest are to come first: the order is turned
round for timestamps only. `Arranged` says so without naming a way to sort, and leaves no choice
(`Arranged.unique`), so that whatever is known to be arranged is what a query cuts its answer from.

What a table holds is what was put into it, whatever else was asked for in between
(`Documents.table_after`). So an answer depends on the documents that were put into the table and
hold what is looked for, and on nothing else.
-/

namespace AssistantUI

/-! ## Documents in order -/

/-- May a document of the first time stand before one of the second? Times are compared by the code
points of their texts. -/
def InTime (newestFirst : Bool) (s t : String) : Prop := if newestFirst then t ≤ s else s ≤ t

instance (newestFirst : Bool) (s t : String) : Decidable (InTime newestFirst s t) :=
  inferInstanceAs (Decidable (if newestFirst then t ≤ s else s ≤ t))

namespace InTime

variable {newestFirst : Bool} {s t u : String}

theorem refl (newestFirst : Bool) (t : String) : InTime newestFirst t t := by
  cases newestFirst <;> exact String.le_refl t

theorem trans (hst : InTime newestFirst s t) (htu : InTime newestFirst t u) :
    InTime newestFirst s u := by
  cases newestFirst with
  | true => exact String.le_trans htu hst
  | false => exact String.le_trans hst htu

theorem total (newestFirst : Bool) (s t : String) :
    InTime newestFirst s t ∨ InTime newestFirst t s := by
  cases newestFirst with
  | true => exact String.le_total t s
  | false => exact String.le_total s t

theorem antisymm (hst : InTime newestFirst s t) (hts : InTime newestFirst t s) : s = t := by
  cases newestFirst with
  | true => exact String.le_antisymm hts hst
  | false => exact String.le_antisymm hst hts

end InTime

/-- The documents of one time, in the order in which they are given. -/
def Document.atTime (t : String) (documents : List Document) : List Document :=
  documents.filter fun d => d.timestamp = t

open Document (atTime)

/-- The answer has the documents in the order of their times. -/
structure Arranged (newestFirst : Bool) (documents answer : List Document) : Prop where
  /-- It has each of them once, and no other. -/
  perm : answer.Perm documents
  ordered : answer.Pairwise fun a b => InTime newestFirst a.timestamp b.timestamp
  /-- Documents of the same time stay in the order in which they are given. -/
  stable : ∀ t, atTime t answer = atTime t documents

namespace Document

/-- A document is ordered by the text of its timestamp, as if by no text if there is none. -/
theorem timestamp_eq (d : Document) :
    d.timestamp = ((d.get? "timestamp").map Json.display).getD "" := by
  unfold timestamp
  cases d.get? "timestamp" <;> rfl

theorem mem_atTime {t : String} {documents : List Document} {d : Document} :
    d ∈ atTime t documents ↔ d ∈ documents ∧ d.timestamp = t := by
  rw [atTime, List.mem_filter, decide_eq_true_iff]

theorem atTime_cons (t : String) (d : Document) (rest : List Document) :
    atTime t (d :: rest) = if d.timestamp = t then d :: atTime t rest else atTime t rest := by
  rw [atTime, List.filter_cons]
  simp only [decide_eq_true_iff, atTime]

theorem atTime_append (t : String) (ds es : List Document) :
    atTime t (ds ++ es) = atTime t ds ++ atTime t es := List.filter_append ..

theorem atTime_eq_nil_iff {t : String} {documents : List Document} :
    atTime t documents = [] ↔ ∀ d ∈ documents, d.timestamp ≠ t := by
  simp only [atTime, List.filter_eq_nil_iff, decide_eq_true_iff, ne_eq]

/-- Documents of one time are in order, whichever way it goes. -/
theorem pairwise_atTime (newestFirst : Bool) (t : String) (documents : List Document) :
    (atTime t documents).Pairwise fun a b => InTime newestFirst a.timestamp b.timestamp := by
  refine List.pairwise_of_forall_mem_list fun a ha b hb => ?_
  rw [(mem_atTime.mp ha).2, (mem_atTime.mp hb).2]
  exact .refl newestFirst t

/-- Whatever has the same documents of every time has the same documents. -/
theorem perm_of_atTime {ds es : List Document} (h : ∀ t, atTime t ds = atTime t es) :
    ds.Perm es := by
  refine List.perm_iff_count.mpr fun d => ?_
  have hcount (l : List Document) : (atTime d.timestamp l).count d = l.count d :=
    List.count_filter (decide_eq_true rfl)
  rw [← hcount ds, h, hcount]

/-- The times, and the documents of every time, tell the list. -/
theorem eq_of_atTime {ds es : List Document} (htimes : ds.map timestamp = es.map timestamp)
    (h : ∀ t, atTime t ds = atTime t es) : ds = es := by
  induction ds generalizing es with
  | nil => exact (List.map_eq_nil_iff.mp htimes.symm).symm
  | cons d ds ih =>
    cases es with
    | nil => cases htimes
    | cons e es =>
      obtain ⟨htime, hrest⟩ := List.cons.inj htimes
      -- both lists begin with the first document of that time
      have hfirst := h d.timestamp
      rw [atTime_cons, atTime_cons, if_pos rfl, if_pos htime.symm] at hfirst
      obtain ⟨rfl, -⟩ := List.cons.inj hfirst
      refine congrArg (d :: ·) (ih hrest fun t => ?_)
      have ht := h t
      rw [atTime_cons, atTime_cons] at ht
      split at ht
      · exact (List.cons.inj ht).2
      · exact ht

end Document

namespace Arranged

variable {newestFirst : Bool} {documents answer other : List Document}

/-- **There is one way to arrange documents only.** -/
theorem unique (h : Arranged newestFirst documents answer)
    (h' : Arranged newestFirst documents other) : answer = other := by
  have htimes : answer.map Document.timestamp = other.map Document.timestamp :=
    ((h.perm.trans h'.perm.symm).map _).eq_of_pairwise (fun _ _ _ _ => InTime.antisymm)
      (List.pairwise_map.mpr h.ordered) (List.pairwise_map.mpr h'.ordered)
  exact Document.eq_of_atTime htimes fun t => (h.stable t).trans (h'.stable t).symm

/-- Only the times that there are have to be looked at. -/
theorem iff_of_times : Arranged newestFirst documents answer ↔
    answer.Perm documents ∧
      (answer.Pairwise fun a b => InTime newestFirst a.timestamp b.timestamp) ∧
      ∀ d ∈ documents, atTime d.timestamp answer = atTime d.timestamp documents := by
  refine ⟨fun h => ⟨h.perm, h.ordered, fun d _ => h.stable d.timestamp⟩, ?_⟩
  rintro ⟨hperm, hordered, htimes⟩
  refine ⟨hperm, hordered, fun t => ?_⟩
  cases hnone : atTime t documents with
  | cons d rest =>
    obtain ⟨hd, rfl⟩ := Document.mem_atTime.mp (hnone ▸ List.mem_cons_self : d ∈ atTime t documents)
    rw [htimes d hd, hnone]
  | nil =>
    rw [Document.atTime_eq_nil_iff] at hnone ⊢
    exact fun d hd => hnone d (hperm.mem_iff.mp hd)

instance : Decidable (Arranged newestFirst documents answer) := decidable_of_iff _ iff_of_times.symm

end Arranged

namespace Query

theorem inOrder_iff {newestFirst : Bool} {a b : Document} :
    inOrder newestFirst a b = true ↔ InTime newestFirst a.timestamp b.timestamp := by
  cases newestFirst <;> exact decide_eq_true_iff

theorem inOrder_trans (newestFirst : Bool) (a b c : Document)
    (hab : inOrder newestFirst a b = true) (hbc : inOrder newestFirst b c = true) :
    inOrder newestFirst a c = true :=
  inOrder_iff.mpr ((inOrder_iff.mp hab).trans (inOrder_iff.mp hbc))

theorem inOrder_total (newestFirst : Bool) (a b : Document) :
    (inOrder newestFirst a b || inOrder newestFirst b a) = true := by
  rw [Bool.or_eq_true_iff, inOrder_iff, inOrder_iff]
  exact InTime.total ..

theorem arranged_mergeSort (newestFirst : Bool) (documents : List Document) :
    Arranged newestFirst documents (documents.mergeSort (inOrder newestFirst)) where
  perm := List.mergeSort_perm ..
  ordered := (List.pairwise_mergeSort (inOrder_trans newestFirst) (inOrder_total newestFirst)
    documents).imp inOrder_iff.mp
  stable := by
    intro t
    -- documents of one time are in order already, and sorting keeps what is in order
    have hsame : (atTime t documents).Pairwise fun a b => inOrder newestFirst a b = true :=
      (Document.pairwise_atTime newestFirst t documents).imp inOrder_iff.mpr
    have hsorted := List.sublist_mergeSort (inOrder_trans newestFirst) (inOrder_total newestFirst)
      hsame List.filter_sublist
    have hsub : (atTime t documents).Sublist
        (atTime t (documents.mergeSort (inOrder newestFirst))) := by
      have hfilter := hsorted.filter fun d => decide (d.timestamp = t)
      simpa only [atTime, List.filter_filter, Bool.and_self] using hfilter
    have hlength := ((List.mergeSort_perm documents (inOrder newestFirst)).filter
      fun d => decide (d.timestamp = t)).length_eq
    exact (hsub.eq_of_length hlength.symm).symm

/-- How many of so many documents a limit leaves. -/
def kept (limit : Option Int) (n : Nat) : Int :=
  match limit with
  | none => n
  | some k => if k < 0 then max 0 (n + k) else min k n

/-- A limit cuts off the end. -/
theorem cut_prefix {α : Type} (limit : Option Int) (l : List α) :
    cut limit l <+: l ∧ ((cut limit l).length : Int) = kept limit l.length := by
  match limit with
  | none => exact ⟨List.prefix_rfl, rfl⟩
  | some (.ofNat n) =>
    refine ⟨List.take_prefix .., ?_⟩
    have hn : ¬Int.ofNat n < 0 := Int.not_lt.mpr (Int.natCast_nonneg n)
    rw [cut, List.length_take, kept, if_neg hn]
    show ((min n l.length : Nat) : Int) = min (n : Int) l.length
    omega
  | some (.negSucc n) =>
    refine ⟨List.take_prefix .., ?_⟩
    rw [cut, List.length_take, kept, if_pos (Int.negSucc_lt_zero n)]
    omega

end Query

/-! ## What is asked of documents -/

namespace Documents

/-- Something asked of documents: to keep one more, or what there is. -/
inductive Request where
  | put (table : Key) (d : Document)
  | query (q : Query)

/-- The document, if it is put into a table. -/
def Request.put? (name : Key) : Request → Option Document
  | put table d => if table == name then some d else none
  | query _ => none

/-- Does what is asked; only a query is answered with documents. -/
def carryOut : Request → Act Documents (List Document)
  | .put table d => do
    storage.put table d
    return []
  | .query q => storage.query q

/-- The documents after everything that was asked. -/
def after : List Request → Documents → Documents
  | [], s => s
  | r :: rest, s => after rest ((carryOut r).runIn s).2

/-- The documents that were put into the table of a query and hold what it looks for; what a
document does not have is null. -/
def matching (q : Query) (asked : List Request) : List Document :=
  (asked.filterMap (·.put? q.table)).filter fun d =>
    Json.alike (match q.index with
      | .text name => (d.get? name).getD .null
      | _ => .null) q.value

theorem table_put (s : Documents) (table name : Key) (d : Document) :
    (s.put table d).table name = s.table name ++ (Request.put? name (.put table d)).toList := by
  rw [Documents.table, put, Dict.get?_insert, Request.put?, BEq.comm]
  split
  · next hname =>
    -- the name may be spelled in another way
    have hsame : s.tables.get? table = s.tables.get? name := Dict.find_congr hname _
    rw [Documents.table, hsame]
    rfl
  · exact (List.append_nil _).symm

/-- **A table holds what was put into it**, in that order. -/
theorem table_after (asked : List Request) (s : Documents) (name : Key) :
    (after asked s).table name = s.table name ++ asked.filterMap (·.put? name) := by
  induction asked generalizing s with
  | nil => exact (List.append_nil _).symm
  | cons r rest ih =>
    have hstep : ((carryOut r).runIn s).2.table name =
        s.table name ++ (r.put? name).toList := by
      cases r with
      | put table d => exact table_put s table name d
      | query q => exact (List.append_nil _).symm
    rw [after, ih, hstep, List.append_assoc, List.filterMap_cons]
    cases r.put? name <;> rfl

/-- A query is answered from what matches it, and changes nothing. -/
theorem runIn_query (asked : List Request) (q : Query) :
    (carryOut (.query q)).runIn (after asked ∅) =
      (.ok (Query.cut q.limit ((matching q asked).mergeSort (Query.inOrder q.newestFirst))),
        after asked ∅) := by
  show (Except.ok (q.select ((after asked ∅).table q.table)), after asked ∅) = _
  rw [table_after]
  rfl

/--
**A query answers with what was put into its table and holds what it looks for**, in the one order
that is asked for, from the first on as far as the limit goes. Whatever else was put or asked for
does not matter, and asking changes nothing.
-/
theorem query_answered (asked : List Request) (q : Query) : ∃ answer arranged,
    (carryOut (.query q)).runIn (after asked ∅) = (.ok answer, after asked ∅) ∧
    Arranged q.newestFirst (matching q asked) arranged ∧
    (∀ d ∈ arranged, d.timestamp = ((d.get? "timestamp").map Json.display).getD "") ∧
    (∀ other, Arranged q.newestFirst (matching q asked) other → other = arranged) ∧
    answer <+: arranged ∧ (answer.length : Int) = Query.kept q.limit arranged.length ∧
    ∀ asked', matching q asked' = matching q asked →
      ((carryOut (.query q)).runIn (after asked' ∅)).1 = .ok answer := by
  have harranged := Query.arranged_mergeSort q.newestFirst (matching q asked)
  obtain ⟨hfirst, hlength⟩ := Query.cut_prefix q.limit
    ((matching q asked).mergeSort (Query.inOrder q.newestFirst))
  refine ⟨_, _, runIn_query asked q, harranged, fun d _ => d.timestamp_eq,
    fun other h => h.unique harranged, hfirst, hlength, fun asked' hsame => ?_⟩
  rw [runIn_query, hsame]

/-- A document with a name, something to look for, and a time or none. -/
def note (id : String) (k : Json) (time : List (String × Json)) : Document :=
  Dict.ofList ([("id", .str id), ("k", k)] ++ time)

/-- Documents of two tables, some of the same time and one of none, and a query among them. -/
def notes : List Request :=
  [.put (.text "t") (note "a" (.int 1) [("timestamp", .int 2)]),
    .put (.text "u") (note "x" (.int 1) [("timestamp", .str "3")]),
    .put (.text "t") (note "b" (.float (.ofDecimal false 10 (-1))) [("timestamp", .str "1")]),
    .query ⟨.text "t", .text "k", .int 1, none, false⟩,
    .put (.text "t") (note "y" (.str "1") [("timestamp", .str "3")]),
    .put (.text "t") (note "d" (.int 1) []),
    .put (.text "t") (note "c" (.bool true) [("timestamp", .str "2")])]

/-- All but one of those with a one, the newest first. -/
def latest : Query := ⟨.text "t", .text "k", .int 1, some (-1), true⟩

/-- The two of the latest time come in the order in which they were put there. -/
theorem query_answered_latest :
    Arranged true (matching latest notes)
      [note "a" (.int 1) [("timestamp", .int 2)], note "c" (.bool true) [("timestamp", .str "2")],
        note "b" (.float (.ofDecimal false 10 (-1))) [("timestamp", .str "1")],
        note "d" (.int 1) []] ∧
    ((carryOut (.query latest)).runIn (after notes ∅)).1 =
      .ok [note "a" (.int 1) [("timestamp", .int 2)],
        note "c" (.bool true) [("timestamp", .str "2")],
        note "b" (.float (.ofDecimal false 10 (-1))) [("timestamp", .str "1")]] := by
  obtain ⟨answer, arranged, hrun, -, -, hunique, hfirst, hlength, -⟩ :=
    query_answered notes latest
  have harranged : Arranged true (matching latest notes)
      [note "a" (.int 1) [("timestamp", .int 2)], note "c" (.bool true) [("timestamp", .str "2")],
        note "b" (.float (.ofDecimal false 10 (-1))) [("timestamp", .str "1")],
        note "d" (.int 1) []] := by decide +kernel
  obtain rfl := hunique _ harranged
  have hthree : answer.length = 3 := Int.ofNat.inj hlength
  rw [List.prefix_iff_eq_take, hthree] at hfirst
  exact ⟨harranged, by rw [hrun, hfirst]; rfl⟩

end Documents

end AssistantUI
