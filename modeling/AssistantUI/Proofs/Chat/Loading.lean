import Mathlib.Data.List.InsertIdx
import Mathlib.Data.List.Nodup
import AssistantUI.Proofs.Chat.Pages

/-!
# When a chat waits

Exchanges overlap, but whether the service is being waited for is remembered in one place: an
exchange that begins writes there that it is, and one that ends writes that it is not. Nothing
counts the exchanges.

To say what is remembered the passages of a chat are written down, that is which exchange begins or
ends at which move. Two things can be told from them. The exchanges that wait are those that have
begun and not ended. The chat says that it waits if the last passage is a beginning. The two agree
as long as one exchange at most waits at a time (`Overlap.Exact.run`); when exchanges overlap, the
first that ends takes the mark of the others with it.
-/

namespace AssistantUI.Chat

/-! ## What an answer does to the mark -/

/-- Does the chat wait after an answer, if it did or did not before? -/
def Progress.loading (before : Bool) : Progress → Bool
  | .asks _ => before
  | .ended _ => false

section

variable (names : Names) (number : Nat) (answer : Except Fault Json) (s : Session Chat)

/-- That a reply is taken in is not the end of the exchange. -/
theorem loading_takeReply :
    ((takeReply names number answer).runIn s).2.host.loading = s.host.loading := by
  cases answer with
  | error f => rfl
  | ok j =>
    cases j with
    | obj members =>
      cases hcontent : Dict.find "content" members with
      | none => rw [runIn_takeReply_none hcontent]; rfl
      | some content =>
        rw [runIn_takeReply_some hcontent, host_afterReply]
        rfl
    | _ => rfl

theorem loading_finish (failed : Bool) :
    (Exchange.finish names number failed s).2.host.loading = false := by
  cases failed <;> rfl

theorem loading_shown : (Exchange.shown names number answer s).2.host.loading = false := by
  unfold Exchange.shown
  split <;> exact loading_finish ..

/-- An exchange that asks again leaves the mark as it is, and one that ends takes it away. -/
theorem loading_reply :
    (Exchange.reply names number answer s).2.host.loading =
      (Exchange.reply names number answer s).1.loading s.host.loading := by
  have htaken := loading_takeReply names number answer s
  unfold Exchange.reply
  generalize (takeReply names number answer).runIn s = r at htaken
  obtain ⟨result, s'⟩ := r
  match result with
  | .error f => exact loading_finish ..
  | .ok none => exact loading_finish ..
  | .ok (some parameters) =>
    dsimp only
    cases interfaceRequest parameters with
    | ok request => exact htaken
    | error f => exact loading_shown ..

theorem loading_resume (w : Waiting) :
    (w.resume names answer s).2.host.loading =
      (w.resume names answer s).1.loading s.host.loading := by
  unfold Waiting.resume
  cases w.request with
  | reply => exact loading_reply ..
  | interface => exact loading_shown ..

end

/-! ## Passages -/

/-- The beginning or the end of an exchange, which goes by the number of the message it sends. -/
inductive Passage where
  | begun (number : Nat)
  | ended (number : Nat)
  deriving DecidableEq

def Passage.number : Passage → Nat
  | begun n => n
  | ended n => n

/-- What an answer to an exchange has ended. -/
def Progress.passage (number : Nat) : Progress → List Passage
  | .asks _ => []
  | .ended _ => [.ended number]

namespace Overlap

/-- What a move begins or ends. -/
def passage (names : Names) (o : Overlap) : Move → List Passage
  | .send _ => [.begun o.session.host.made]
  | .answer i answer =>
    match o.waiting[i]? with
    | none => []
    | some w => (w.resume names answer o.session).1.passage w.number
  | .newConversation => []

/-- What moves begin and end, one after another. -/
def passages (names : Names) (o : Overlap) : List Move → List Passage
  | [] => []
  | move :: rest => o.passage names move ++ passages names (o.step names move) rest

/-- The numbers of the exchanges that wait. -/
def numbers (o : Overlap) : List Nat := o.waiting.map Waiting.number

theorem getElem?_numbers {o : Overlap} {i : Nat} {w : Waiting} (hw : o.waiting[i]? = some w) :
    o.numbers[i]? = some w.number := by
  rw [numbers, List.getElem?_map, hw]
  rfl

/-- What is known of a chat after these passages. -/
structure Tracked (log : List Passage) (o : Overlap) : Prop where
  /-- Those wait that have begun and not ended. -/
  waiting (n : Nat) : n ∈ o.numbers ↔ .begun n ∈ log ∧ .ended n ∉ log
  /-- The mark is the one that was made last. -/
  loading : o.session.host.loading = true ↔ ∃ n, log.getLast? = some (.begun n)
  latest (n : Nat) : log.getLast? = some (.begun n) → n ∈ o.numbers
  distinct : o.numbers.Nodup
  numbered : ∀ p ∈ log, p.number < o.session.host.made

theorem tracked_start (names : Names) : Tracked [] (start names) where
  waiting n := by simp [numbers, start]
  loading := by
    have hidle : (start names).session.host.loading = false := rfl
    simp [hidle]
  latest := nofun
  distinct := List.nodup_nil
  numbered := nofun

variable {log : List Passage} {o : Overlap}

/-- Where nothing begins and nothing ends, and messages at most are made, nothing is new. -/
theorem Tracked.keep (h : Tracked log o) {o' : Overlap} (hnumbers : o'.numbers = o.numbers)
    (hloading : o'.session.host.loading = o.session.host.loading)
    (hmade : o.session.host.made ≤ o'.session.host.made) : Tracked log o' where
  waiting n := by rw [hnumbers, h.waiting]
  loading := by rw [hloading, h.loading]
  latest n hn := by rw [hnumbers]; exact h.latest n hn
  distinct := by rw [hnumbers]; exact h.distinct
  numbered p hp := Nat.lt_of_lt_of_le (h.numbered p hp) hmade

/-- An exchange begins under a number that none had before. -/
theorem Tracked.send (h : Tracked log o) (names : Names) (content : Json) :
    Tracked (log ++ [.begun o.session.host.made]) (o.send names content) := by
  have hnumbers : (o.send names content).numbers = o.numbers ++ [o.session.host.made] :=
    List.map_append
  have hunused : ∀ p ∈ log, p.number ≠ o.session.host.made := fun p hp =>
    Nat.ne_of_lt (h.numbered p hp)
  refine ⟨fun n => ?_, ?_, fun n hn => ?_, ?_, fun p hp => ?_⟩
  · rw [hnumbers, List.mem_append, h.waiting, List.mem_singleton]
    by_cases hn : n = o.session.host.made
    · have hended : Passage.ended n ∉ log := fun hmem => hunused _ hmem hn
      simp [hn, hn ▸ hended]
    · simp [hn]
  · exact ⟨fun _ => ⟨_, List.getLast?_concat⟩, fun _ => rfl⟩
  · rw [List.getLast?_concat] at hn
    obtain rfl : o.session.host.made = n := by simpa using hn
    rw [hnumbers]
    exact List.mem_append_right _ (List.mem_singleton_self _)
  · rw [hnumbers]
    refine List.nodup_append.mpr ⟨h.distinct, List.nodup_singleton _, fun n hn m hm heq => ?_⟩
    rw [heq, List.mem_singleton.mp hm] at hn
    exact hunused _ ((h.waiting _).mp hn).1 rfl
  · show p.number < o.session.host.made + 1
    rcases List.mem_append.mp hp with hp | hp
    · exact Nat.lt_succ_of_lt (h.numbered p hp)
    · rw [List.mem_singleton.mp hp]
      exact Nat.lt_succ_self _

/-- An exchange ends, and the others go on waiting, though the mark says otherwise. -/
theorem Tracked.finish (h : Tracked log o) {i : Nat} {w : Waiting} (hw : o.waiting[i]? = some w)
    {s : Session Chat} (hloading : s.host.loading = false)
    (hmade : o.session.host.made ≤ s.host.made) :
    Tracked (log ++ [.ended w.number]) ⟨s, o.waiting.eraseIdx i⟩ := by
  have hi : o.numbers[i]? = some w.number := getElem?_numbers hw
  have hnumbers : (⟨s, o.waiting.eraseIdx i⟩ : Overlap).numbers = o.numbers.eraseIdx i :=
    (List.eraseIdx_map ..).symm
  have hbegun := (h.waiting w.number).mp (List.mem_of_getElem? hi)
  refine ⟨fun n => ?_, ?_, fun n hn => ?_, ?_, fun p hp => ?_⟩
  · -- numbers are distinct, so taking one away at its place takes away the number
    obtain ⟨hlt, hget⟩ := List.getElem?_eq_some_iff.mp hi
    have herase : o.numbers.eraseIdx i = o.numbers.erase w.number := by
      rw [← hget, h.distinct.erase_getElem i hlt]
    rw [hnumbers, herase, h.distinct.mem_erase_iff, h.waiting]
    simp only [List.mem_append, List.mem_singleton, reduceCtorEq, or_false, Passage.ended.injEq,
      not_or]
    exact ⟨fun ⟨hne, hb, he⟩ => ⟨hb, he, hne⟩, fun ⟨hb, he, hne⟩ => ⟨hne, hb, he⟩⟩
  · simp [hloading]
  · simp at hn
  · rw [hnumbers]
    exact h.distinct.sublist (List.eraseIdx_sublist ..)
  · refine Nat.lt_of_lt_of_le ?_ hmade
    rcases List.mem_append.mp hp with hp | hp
    · exact h.numbered p hp
    · rw [List.mem_singleton.mp hp]
      exact h.numbered (.begun w.number) hbegun.1

theorem Tracked.answer (h : Tracked log o) (names : Names) (i : Nat) (answer : Except Fault Json) :
    Tracked (log ++ o.passage names (.answer i answer)) (o.answer names i answer) := by
  unfold passage Overlap.answer
  dsimp only
  cases hw : o.waiting[i]? with
  | none =>
    rw [List.append_nil]
    exact h
  | some w =>
    have hmade := ((endures_since 0 o.session.host.made).resume names answer w
      (s := o.session) ⟨Nat.zero_le _, fun _ _ => Nat.zero_le _, Nat.le_refl _⟩).2.2
    have hloading := loading_resume names answer o.session w
    dsimp only
    generalize w.resume names answer o.session = r at hmade hloading
    obtain ⟨progress, s⟩ := r
    cases progress with
    | asks request =>
      have hnumbers : (o.waiting.set i ⟨w.number, request⟩).map Waiting.number = o.numbers := by
        obtain ⟨hlt, hget⟩ := List.getElem?_eq_some_iff.mp (getElem?_numbers hw)
        rw [List.map_set, ← hget]
        exact List.set_getElem_self hlt
      rw [Progress.passage, List.append_nil]
      exact h.keep hnumbers hloading hmade
    | ended delivery => exact h.finish hw hloading hmade

theorem Tracked.step (h : Tracked log o) (names : Names) (move : Move) :
    Tracked (log ++ o.passage names move) (o.step names move) := by
  cases move with
  | send content => exact h.send names content
  | answer i answer => exact h.answer names i answer
  | newConversation =>
    have hhost := host_newConversation names o
    rw [passage, List.append_nil]
    refine h.keep rfl ?_ ?_
    · rw [hhost]
      rfl
    · rw [hhost]
      exact Nat.le_succ _

theorem Tracked.run (h : Tracked log o) (names : Names) (moves : List Move) :
    Tracked (log ++ o.passages names moves) (o.run names moves) := by
  induction moves generalizing log o with
  | nil =>
    rw [passages, List.append_nil]
    exact h
  | cons move rest ih =>
    rw [passages, ← List.append_assoc]
    exact ih (h.step names move)

/-! ## One exchange at a time -/

/-- The chat says that it waits exactly if an exchange does. -/
def Exact (o : Overlap) : Prop := o.session.host.loading = true ↔ o.waiting ≠ []

/-- The end of an exchange is right to take the mark away if no other waits. -/
theorem Exact.step (h : o.Exact) (hsingle : o.waiting.length ≤ 1) (names : Names) (move : Move) :
    (o.step names move).Exact := by
  cases move with
  | send content => exact ⟨fun _ => by simp [Overlap.step, Overlap.send], fun _ => rfl⟩
  | newConversation =>
    unfold Exact
    rw [host_newConversation]
    exact h
  | answer i answer =>
    show (o.answer names i answer).Exact
    unfold Overlap.answer
    cases hw : o.waiting[i]? with
    | none => exact h
    | some w =>
      have hloading := loading_resume names answer o.session w
      dsimp only
      generalize w.resume names answer o.session = r at hloading
      obtain ⟨progress, s⟩ := r
      cases progress with
      | asks request =>
        unfold Exact
        rw [show s.host.loading = o.session.host.loading from hloading]
        exact h.trans (not_congr (List.set_eq_nil_iff ..).symm)
      | ended delivery =>
        have hi : i < o.waiting.length := (List.getElem?_eq_some_iff.mp hw).1
        have hnone : o.waiting.eraseIdx i = [] := by
          rw [← List.length_eq_zero_iff, List.length_eraseIdx_of_lt hi]
          omega
        unfold Exact
        rw [show s.host.loading = false from hloading]
        simp [hnone]

theorem Exact.run (h : o.Exact) (names : Names) (moves : List Move)
    (hsingle : ∀ k, (o.run names (moves.take k)).waiting.length ≤ 1) :
    (o.run names moves).Exact := by
  induction moves generalizing o with
  | nil => exact h
  | cons move rest ih =>
    exact ih (h.step (hsingle 0) names move) fun k => hsingle (k + 1)

end Overlap

/--
**The chat says that it waits exactly if an exchange has begun since the last one ended.** Such an
exchange waits itself. So whenever the chat says that it waits an exchange does, and the other way
round as well if no two ever waited at a time.
-/
theorem loading_run (names : Names) (moves : List Move) :
    let o := (Overlap.start names).run names moves
    let log := (Overlap.start names).passages names moves
    (∀ n, n ∈ o.numbers ↔ .begun n ∈ log ∧ .ended n ∉ log) ∧
    (o.session.host.loading = true ↔ ∃ n, log.getLast? = some (.begun n)) ∧
    (∀ n, log.getLast? = some (.begun n) → n ∈ o.numbers) ∧
    ((∀ k, ((Overlap.start names).run names (moves.take k)).waiting.length ≤ 1) →
      (o.session.host.loading = true ↔ o.waiting ≠ [])) := by
  intro o log
  have h : o.Tracked log := (Overlap.tracked_start names).run names moves
  have hstart : (Overlap.start names).Exact := ⟨nofun, fun h => absurd rfl h⟩
  exact ⟨h.waiting, h.loading, h.latest, hstart.run names moves⟩

/-- Of two messages on their way the second is answered first, and the first still waits. -/
theorem loading_of_two_waiting :
    ¬ ∀ (names : Names) (moves : List Move),
      let log := (Overlap.start names).passages names moves
      ((Overlap.start names).run names moves).session.host.loading = true ↔
        ∃ n, .begun n ∈ log ∧ .ended n ∉ log := by
  intro h
  let names : Names := ⟨toString, toString, toString⟩
  let moves : List Move := [.send (.str "first"), .send (.str "second"), .answer 1 plainReply]
  have hlog : (Overlap.start names).passages names moves = [.begun 1, .begun 2, .ended 2] := rfl
  have hwaits : ∃ n, Passage.begun n ∈ (Overlap.start names).passages names moves ∧
      .ended n ∉ (Overlap.start names).passages names moves := ⟨1, by rw [hlog]; decide⟩
  have hidle : ((Overlap.start names).run names moves).session.host.loading = false := rfl
  rw [(h names moves).mpr hwaits] at hidle
  contradiction

end AssistantUI.Chat
