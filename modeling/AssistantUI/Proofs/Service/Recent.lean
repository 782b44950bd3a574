import Mathlib.Data.List.Dedup
import AssistantUI.Proofs.Documents.Queries
import AssistantUI.Proofs.Service.Requests

/-!
# The most recent messages

The history of a conversation is a query for its messages, the newest first. Messages are stored
one after the other, with times that never decrease, so one would expect the last ones stored, in
the opposite order. But a query turns round the order of times only: messages of the same time come
in the order in which they were stored, the earliest of them first, and a limit may cut off the very
last (`Document.newestFirst`).

Backwards and newest first are the same as far as every message has a time of its own
(`Document.take_newestFirst_iff`). With a clock so coarse that two messages get one time, a history
can leave out what was said last (`Service.lookBack_newestFirst`).
-/

namespace AssistantUI

open Document (atTime)

namespace Document

/-- The times of documents, each once. -/
def times (documents : List Document) : List String := (documents.map timestamp).dedup

/-- The documents of the last time in the order in which they are given, then those of the time
before it, and so on. -/
def newestFirst (documents : List Document) : List Document :=
  (times documents).reverse.flatMap fun t => atTime t documents

theorem mem_times {t : String} {documents : List Document} :
    t ∈ times documents ↔ ∃ d ∈ documents, d.timestamp = t := by
  rw [times, List.mem_dedup, List.mem_map]

theorem atTime_atTime (t u : String) (documents : List Document) :
    atTime t (atTime u documents) = if u = t then atTime t documents else [] := by
  split
  · next h =>
    subst h
    simp only [atTime, List.filter_filter, Bool.and_self]
  · next h =>
    refine atTime_eq_nil_iff.mpr fun d hd => ?_
    rw [(mem_atTime.mp hd).2]
    exact h

/-- Of alternatives that exclude each other one is taken. -/
theorem flatMap_ite_eq {ts : List String} (h : ts.Nodup) (t : String) (ds : List Document) :
    (ts.flatMap fun u => if u = t then ds else []) = if t ∈ ts then ds else [] := by
  induction ts with
  | nil => rfl
  | cons u rest ih =>
    obtain ⟨hu, hrest⟩ := List.nodup_cons.mp h
    rw [List.flatMap_cons, ih hrest]
    by_cases hut : u = t
    · subst hut
      rw [if_pos rfl, if_neg hu, if_pos List.mem_cons_self, List.append_nil]
    · have hiff : t ∈ u :: rest ↔ t ∈ rest := by
        rw [List.mem_cons]
        exact or_iff_right fun htu => hut htu.symm
      rw [if_neg hut, List.nil_append]
      simp only [hiff]

theorem atTime_newestFirst (t : String) (documents : List Document) :
    atTime t (newestFirst documents) = atTime t documents := by
  have hnodup : (times documents).reverse.Nodup := List.nodup_reverse.mpr (List.nodup_dedup _)
  have hblocks : atTime t (newestFirst documents) =
      (times documents).reverse.flatMap fun u => if u = t then atTime t documents else [] := by
    rw [newestFirst, atTime, List.filter_flatMap]
    exact congrArg (fun f => List.flatMap f _) (funext fun u => atTime_atTime t u documents)
  rw [hblocks, flatMap_ite_eq hnodup]
  split
  · rfl
  · next hnone =>
    refine (atTime_eq_nil_iff.mpr fun d hd htime => hnone ?_).symm
    exact List.mem_reverse.mpr (mem_times.mpr ⟨d, hd, htime⟩)

/-- The documents come in the order of their times. -/
def Timely (documents : List Document) : Prop := (documents.map timestamp).Pairwise (· ≤ ·)

instance (documents : List Document) : Decidable (Timely documents) :=
  inferInstanceAs (Decidable ((documents.map timestamp).Pairwise (· ≤ ·)))

theorem Timely.sublist {ds es : List Document} (h : Timely ds) (hsub : es.Sublist ds) :
    Timely es := List.Pairwise.sublist (hsub.map timestamp) h

/-- Documents that come in the order of their times are arranged so with the newest first. -/
theorem arranged_newestFirst {documents : List Document} (h : Timely documents) :
    Arranged true documents (newestFirst documents) where
  perm := perm_of_atTime fun t => atTime_newestFirst t documents
  stable t := atTime_newestFirst t documents
  ordered := by
    refine List.pairwise_flatMap.mpr ⟨fun t _ => pairwise_atTime true t documents, ?_⟩
    have htimes : (times documents).Pairwise (· ≤ ·) :=
      List.Pairwise.sublist (List.dedup_sublist _) h
    refine (List.pairwise_reverse.mpr htimes).imp fun hle a ha b hb => ?_
    rw [(mem_atTime.mp ha).2, (mem_atTime.mp hb).2]
    exact hle

/-! ## Newest first, and backwards -/

theorem atTime_reverse (t : String) (documents : List Document) :
    atTime t documents.reverse = (atTime t documents).reverse := List.filter_reverse ..

/-- A list that begins in the same way when it is turned round, and has none twice, has one only. -/
theorem eq_singleton_of_prefixes {ds front : List Document} (hnodup : ds.Nodup)
    (hne : front ≠ []) (h : front <+: ds) (h' : front <+: ds.reverse) : ∃ d, ds = [d] := by
  refine (hnodup.head_eq_getLast_iff (h.ne_nil hne)).mp ?_
  rw [← h.head hne, ← List.head_reverse (h'.ne_nil hne), ← h'.head hne]

/-- What is of one time comes in its order first and in the opposite order then, so if the first
documents are the same both ways, one of them leaves no room for another of its time. -/
theorem eq_of_take_newestFirst {documents : List Document} (hnodup : documents.Nodup) {k : Nat}
    (h : (newestFirst documents).take k = documents.reverse.take k) {d : Document}
    (hd : d ∈ documents.reverse.take k) {e : Document} (he : e ∈ documents)
    (htime : e.timestamp = d.timestamp) : e = d := by
  have hforth : atTime d.timestamp (documents.reverse.take k) <+: atTime d.timestamp documents := by
    rw [← h, ← atTime_newestFirst d.timestamp documents]
    exact (List.take_prefix ..).filter _
  have hback : atTime d.timestamp (documents.reverse.take k) <+:
      (atTime d.timestamp documents).reverse := by
    rw [← atTime_reverse]
    exact (List.take_prefix ..).filter _
  have hne := List.ne_nil_of_mem (mem_atTime.mpr ⟨hd, rfl⟩)
  obtain ⟨x, hone⟩ := eq_singleton_of_prefixes (hnodup.filter _) hne hforth hback
  -- both are the only document of that time
  have hsingle {f : Document} (hf : f ∈ documents) (hftime : f.timestamp = d.timestamp) : f = x :=
    List.mem_singleton.mp (hone ▸ mem_atTime.mpr ⟨hf, hftime⟩)
  rw [hsingle he htime, hsingle (List.mem_reverse.mp (List.mem_of_mem_take hd)) rfl]

/-- Documents that are each the only one of its time, after older ones, come backwards. -/
theorem newestFirst_append {old recent : List Document} (h : Timely (old ++ recent))
    (hnodup : (old ++ recent).Nodup)
    (halone : ∀ d ∈ recent, ∀ e ∈ old ++ recent, e.timestamp = d.timestamp → e = d) :
    newestFirst (old ++ recent) = recent.reverse ++ newestFirst old := by
  have hold := arranged_newestFirst (h.sublist (List.sublist_append_left ..))
  have hperm : (recent.reverse ++ newestFirst old).Perm (old ++ recent) :=
    (recent.reverse_perm.append hold.perm).trans List.perm_append_comm
  obtain ⟨-, hrecent, hacross⟩ := List.pairwise_append.mp (List.pairwise_map.mp h)
  refine (arranged_newestFirst h).unique ⟨hperm, ?_, fun t => ?_⟩
  · refine List.pairwise_append.mpr ⟨List.pairwise_reverse.mpr hrecent, hold.ordered, ?_⟩
    exact fun a ha b hb => hacross b (hold.perm.mem_iff.mp hb) a (List.mem_reverse.mp ha)
  · by_cases hd : ∃ d ∈ recent, d.timestamp = t
    · -- there is one document of that time, wherever it stands
      obtain ⟨d, hd, rfl⟩ := hd
      have hone : (atTime d.timestamp (old ++ recent)).Perm [d] := by
        refine (List.perm_ext_iff_of_nodup (hnodup.filter _) (List.nodup_singleton d)).mpr ?_
        refine fun e => mem_atTime.trans ⟨fun he => ?_, fun he => ?_⟩
        · exact List.mem_singleton.mpr (halone d hd e he.1 he.2)
        · obtain rfl := List.mem_singleton.mp he
          exact ⟨List.mem_append_right old hd, rfl⟩
      rw [List.perm_singleton.mp hone]
      exact List.perm_singleton.mp ((hperm.filter _).trans hone)
    · have hnone : atTime t recent = [] :=
        atTime_eq_nil_iff.mpr fun d hmem htime => hd ⟨d, hmem, htime⟩
      rw [atTime_append, atTime_append, atTime_reverse, hold.stable, hnone, List.append_nil]
      rfl

/-- **Newest first is backwards as far as every document is the only one of its time.** -/
theorem take_newestFirst_iff {documents : List Document} (h : Timely documents)
    (hnodup : documents.Nodup) (k : Nat) :
    (newestFirst documents).take k = documents.reverse.take k ↔
      ∀ d ∈ documents.reverse.take k, ∀ e ∈ documents, e.timestamp = d.timestamp → e = d := by
  refine ⟨fun hsame d hd e he => eq_of_take_newestFirst hnodup hsame hd he, fun halone => ?_⟩
  -- what the last ones come after does not matter
  have hsplit : documents =
      (documents.reverse.drop k).reverse ++ (documents.reverse.take k).reverse := by
    rw [← List.reverse_append, List.take_append_drop, List.reverse_reverse]
  have hback := newestFirst_append (hsplit ▸ h) (hsplit ▸ hnodup) fun d hd e he =>
    halone d (List.mem_reverse.mp hd) e (hsplit ▸ he)
  rw [← hsplit, List.reverse_reverse] at hback
  rw [hback]
  rcases Nat.le_total k documents.reverse.length with hle | hle
  · have hlength := (List.length_take_of_le hle).symm
    rw [List.take_append_of_le_length (Nat.le_of_eq hlength), List.take_take, Nat.min_self]
  · -- there are no others
    rw [List.drop_of_length_le hle, List.take_of_length_le hle]
    exact (congrArg (List.take k) (List.append_nil _)).trans (List.take_of_length_le hle)

end Document

/-! ## The history of a conversation -/

namespace Service

/-- The messages of a conversation. -/
def ofConversation (conversation : Json) (messages : List Document) : List Document :=
  messages.filter fun d => Json.alike ((d.get? "conversationId").getD .null) conversation

section

variable {ω : Type} (service : Service ω)

/-- Keeps messages, one after the other. -/
def storeAll : List Document → Act (State ω) Unit
  | [] => return ()
  | d :: rest => do
    service.storeMessage d
    storeAll rest

/-- Keeps messages and looks up the history of a conversation then. -/
def lookBack (messages : List Document) (conversation : Json) (limit : Nat) :
    Act (State ω) (List Document) := do
  service.storeAll messages
  service.history conversation (some limit)

end

section

variable (settings : Settings) (supply : Supply)

theorem runIn_storeMessage (d : Document) (s : State Documents) :
    ((inMemory settings supply).storeMessage d).runIn s =
      (.ok (), ⟨s.documents.put (.text settings.messagesTable) d, s.ids, s.times⟩) := rfl

/-- To keep messages is to put them into their table. -/
theorem runIn_storeAll (messages : List Document) (s : State Documents) :
    ((inMemory settings supply).storeAll messages).runIn s =
      (.ok (),
        ⟨Documents.after (messages.map (.put (.text settings.messagesTable))) s.documents, s.ids,
          s.times⟩) := by
  induction messages generalizing s with
  | nil => rfl
  | cons d rest ih =>
    rw [storeAll, Act.runIn_bind, runIn_storeMessage]
    exact ih _

/-- What a history is asked of. -/
def historyQuery (settings : Settings) (conversation : Json) (limit : Nat) : Query where
  table := .text settings.messagesTable
  index := .text "conversationId"
  value := conversation
  limit := some limit
  newestFirst := true

theorem matching_historyQuery (messages : List Document) (conversation : Json) (limit : Nat) :
    Documents.matching (historyQuery settings conversation limit)
      (messages.map (.put (.text settings.messagesTable))) =
        ofConversation conversation messages := by
  have hput (d : Document) : Documents.Request.put? (.text settings.messagesTable)
      (.put (.text settings.messagesTable) d) = some d := if_pos BEq.rfl
  unfold Documents.matching
  rw [List.filterMap_map]
  refine congrArg (List.filter _) ?_
  exact (congrArg (fun f => List.filterMap f messages) (funext hput)).trans List.filterMap_some

theorem runIn_lookBack {messages : List Document} (h : Document.Timely messages)
    (conversation : Json) (limit : Nat) :
    (((inMemory settings supply).lookBack messages conversation limit).runIn (State.new ∅)).1 =
      .ok ((Document.newestFirst (ofConversation conversation messages)).take limit) := by
  let asked := messages.map (Documents.Request.put (.text settings.messagesTable))
  have hhistory : (((inMemory settings supply).history conversation (some limit)).runIn
      ⟨Documents.after asked ∅, 0, 0⟩).1 =
      ((Documents.carryOut (.query (historyQuery settings conversation limit))).runIn
        (Documents.after asked ∅)).1 := rfl
  rw [lookBack, Act.runIn_bind, runIn_storeAll]
  refine hhistory.trans ?_
  rw [Documents.runIn_query, matching_historyQuery]
  have harranged := Query.arranged_mergeSort true (ofConversation conversation messages)
  rw [← harranged.unique (Document.arranged_newestFirst (h.sublist List.filter_sublist))]
  rfl

/--
**The history of a conversation goes back from time to time, and forwards within a time**, as far as
the limit goes. So, if no message is kept twice, it has the last ones kept, the very last of them
first, exactly if each of these is the only message of the conversation at its time.
-/
theorem lookBack_newestFirst {messages : List Document} (h : Document.Timely messages)
    (conversation : Json) (limit : Nat) :
    let kept := ofConversation conversation messages
    let answer := (((inMemory settings supply).lookBack messages conversation limit).runIn
      (State.new ∅)).1
    answer = .ok ((Document.newestFirst kept).take limit) ∧
    (∀ d ∈ kept, d.timestamp = ((d.get? "timestamp").map Json.display).getD "") ∧
    (kept.Nodup → (answer = .ok (kept.reverse.take limit) ↔
      ∀ d ∈ kept.reverse.take limit, ∀ e ∈ kept, e.timestamp = d.timestamp → e = d)) := by
  intro kept answer
  have hrun : answer = .ok ((Document.newestFirst kept).take limit) :=
    runIn_lookBack settings supply h conversation limit
  refine ⟨hrun, fun d _ => d.timestamp_eq, fun hnodup => ?_⟩
  rw [hrun, Except.ok.injEq]
  exact Document.take_newestFirst_iff (h.sublist List.filter_sublist) hnodup limit

/-- A message with a name, of a conversation, at a time. -/
def message (id conversation time : String) : Document :=
  Dict.ofList [("id", .str id), ("conversationId", .str conversation), ("timestamp", .str time)]

/-- Messages of two conversations, kept by a clock that is too coarse to tell two of them apart. -/
def coarse : List Document :=
  [message "1" "c" "2024-01-01", message "2" "c" "2024-01-02", message "3" "d" "2024-01-02",
    message "4" "c" "2024-01-02", message "5" "c" "2024-01-03"]

/-- The last one is the first of the history, but the one before it is not the second. -/
theorem lookBack_newestFirst_coarse :
    Document.Timely coarse ∧ (ofConversation (.str "c") coarse).Nodup ∧
    (((inMemory .default numbered).lookBack coarse (.str "c") 1).runIn (State.new ∅)).1 =
      .ok [message "5" "c" "2024-01-03"] ∧
    (((inMemory .default numbered).lookBack coarse (.str "c") 2).runIn (State.new ∅)).1 =
      .ok [message "5" "c" "2024-01-03", message "2" "c" "2024-01-02"] := by
  have htimely : Document.Timely coarse := by decide +kernel
  have hnodup : (ofConversation (.str "c") coarse).Nodup := by decide +kernel
  obtain ⟨-, -, hone⟩ := lookBack_newestFirst .default numbered htimely (.str "c") 1
  obtain ⟨htwo, -⟩ := lookBack_newestFirst .default numbered htimely (.str "c") 2
  refine ⟨htimely, hnodup, ?_, ?_⟩
  · rw [(hone hnodup).mpr (by decide +kernel)]
    decide +kernel
  · rw [htwo]
    decide +kernel

/-- The history need not have the last messages that were kept, the very last of them first. -/
theorem not_lookBack_reverse :
    ¬ ∀ (settings : Settings) (supply : Supply) (messages : List Document) (conversation : Json)
      (limit : Nat),
      (∀ d ∈ messages, ∃ time, d.get? "timestamp" = some (.str time)) →
      Document.Timely messages →
        (((inMemory settings supply).lookBack messages conversation limit).runIn (State.new ∅)).1 =
          .ok ((ofConversation conversation messages).reverse.take limit) := by
  intro hlast
  let messages := [message "1" "c" "2024-01-01", message "2" "c" "2024-01-01"]
  have htexts : ∀ d ∈ messages, ∃ time, d.get? "timestamp" = some (.str time) := by
    intro d hd
    refine ⟨"2024-01-01", ?_⟩
    rcases List.mem_pair.mp hd with rfl | rfl <;> rfl
  have htimely : Document.Timely messages := by decide +kernel
  have hanswer := hlast .default numbered messages (.str "c") 1 htexts htimely
  rw [runIn_lookBack _ _ htimely, Except.ok.injEq] at hanswer
  -- the one that was kept first is answered
  exact absurd hanswer (by decide +kernel)

end

end Service

end AssistantUI
