import AssistantUI.Agent
import Mathlib.Data.List.TakeWhile

/-!
# Which rule answers a message

The agent looks for every keyword at every place of a message, and takes it where no word character
stands right before or behind it. Nothing is cut into words for that. Still it is the words that
decide: since a keyword consists of word characters, it can stand free at both ends only if it is a
whole run of them. Inside a longer run it has a neighbour, and it cannot reach over the end of a run
(`hasWord_iff_isRun`).

So a message is answered by the first rule with a keyword among the words of its lower-case text,
and two messages with the same words, in any order and however often and whatever is between them,
are answered by the same rule (`respond_by_words`).
-/

namespace AssistantUI

namespace Text

/-- A maximal run of word characters in a text: it is not empty, and no word character stands right
before or behind it. -/
def IsRun (w text : List Char) : Prop :=
  ∃ before behind, text = before ++ w ++ behind ∧ w ≠ [] ∧ (∀ c ∈ w, isWordChar c = true) ∧
    (∀ c ∈ before.getLast?, isWordChar c = false) ∧ ∀ c ∈ behind.head?, isWordChar c = false

/-! ## Looking for a word -/

theorem wordAtFront_iff (w text : List Char) : wordAtFront w text = true ↔
    ∃ behind, text = w ++ behind ∧ ∀ c ∈ behind.head?, isWordChar c = false := by
  induction w generalizing text with
  | nil => cases text <;> simp [wordAtFront]
  | cons a w ih =>
    cases text with
    | nil => simp [wordAtFront]
    | cons c s => simp [wordAtFront, ih, eq_comm (a := a), and_assoc]

/-- What is found has a border on each side; at the front of the text, only if one is there. -/
theorem occursAt_iff {w : List Char} (hw : w ≠ []) (mayStart : Bool) (text : List Char) :
    occursAt w mayStart text = true ↔ ∃ before behind, text = before ++ w ++ behind ∧
      (before = [] → mayStart = true) ∧ (∀ c ∈ before.getLast?, isWordChar c = false) ∧
      ∀ c ∈ behind.head?, isWordChar c = false := by
  induction text generalizing mayStart with
  | nil => simp [occursAt, hw]
  | cons c s ih =>
    rw [occursAt, Bool.or_eq_true, Bool.and_eq_true, wordAtFront_iff, ih]
    constructor
    · rintro (⟨hstart, behind, htext, hbehind⟩ | ⟨before, behind, rfl, hstart, hbefore, hbehind⟩)
      · exact ⟨[], behind, htext, fun _ => hstart, by simp, hbehind⟩
      · refine ⟨c :: before, behind, rfl, by simp, ?_, hbehind⟩
        cases before with
        | nil => simpa using hstart rfl
        | cons d rest => simpa using hbefore
    · rintro ⟨before, behind, htext, hstart, hbefore, hbehind⟩
      cases before with
      | nil => exact .inl ⟨hstart rfl, behind, htext, hbehind⟩
      | cons d rest =>
        obtain ⟨rfl, rfl⟩ := List.cons.inj htext
        refine .inr ⟨rest, behind, rfl, ?_, ?_, hbehind⟩
        · rintro rfl
          simpa using hbefore
        · intro e he
          cases rest with
          | nil => simp at he
          | cons d' rest => exact hbefore e (by simpa using he)

/-- **What consists of word characters is found exactly if it is a whole run of them.** -/
theorem hasWord_iff_isRun {w : List Char} (hw : w ≠ []) (hchars : ∀ c ∈ w, isWordChar c = true)
    (text : List Char) : hasWord w text = true ↔ IsRun w text := by
  rw [hasWord, occursAt_iff hw]
  constructor
  · rintro ⟨before, behind, htext, -, hbefore, hbehind⟩
    exact ⟨before, behind, htext, hw, hchars, hbefore, hbehind⟩
  · rintro ⟨before, behind, htext, -, -, hbefore, hbehind⟩
    exact ⟨before, behind, htext, fun _ => rfl, hbefore, hbehind⟩

/-! ## Cutting a text into words -/

theorem words_cons_of_not_word {c : Char} (hc : isWordChar c = false) (s : List Char) :
    words (c :: s) = words s := by
  conv => lhs; unfold words
  simp [hc]

theorem words_cons_of_word {c : Char} (hc : isWordChar c = true) (s : List Char) :
    words (c :: s) = (c :: s.takeWhile isWordChar) :: words (s.dropWhile isWordChar) := by
  induction s generalizing c with
  | nil => simp [words, hc]
  | cons d rest ih =>
    conv => lhs; unfold words
    by_cases hd : isWordChar d = true
    · simp [hc, hd, ih hd]
    · cases hwords : words (d :: rest) <;> simp [hc, hd, hwords]

section

variable {r : List Char} (hr : r ≠ []) (hword : ∀ c ∈ r, isWordChar c = true)
include hr hword

/-- What begins with word characters begins with one. -/
theorem exists_head?_of_word (rest : List Char) :
    ∃ c ∈ (r ++ rest).head?, isWordChar c = true := by
  cases r with
  | nil => exact absurd rfl hr
  | cons c r => exact ⟨c, rfl, hword c List.mem_cons_self⟩

/-- Some word characters end in one. -/
theorem exists_getLast?_of_word : ∃ c ∈ r.getLast?, isWordChar c = true :=
  ⟨r.getLast hr, List.getLast?_eq_some_getLast hr, hword _ (List.getLast_mem hr)⟩

end

theorem isRun_cons_of_not_word {c : Char} (hc : isWordChar c = false) (w s : List Char) :
    IsRun w (c :: s) ↔ IsRun w s := by
  constructor
  · rintro ⟨before, behind, htext, hw, hchars, hbefore, hbehind⟩
    cases before with
    | nil =>
      obtain ⟨d, hd, hdword⟩ := exists_head?_of_word hw hchars behind
      rw [← List.nil_append w, ← htext] at hd
      obtain rfl := Option.some.inj hd
      exact absurd (hc.symm.trans hdword) Bool.false_ne_true
    | cons d rest =>
      obtain ⟨rfl, rfl⟩ := List.cons.inj htext
      refine ⟨rest, behind, rfl, hw, hchars, ?_, hbehind⟩
      intro e he
      cases rest with
      | nil => simp at he
      | cons d' rest => exact hbefore e (by simpa using he)
  · rintro ⟨before, behind, rfl, hw, hchars, hbefore, hbehind⟩
    refine ⟨c :: before, behind, rfl, hw, hchars, ?_, hbehind⟩
    cases before with
    | nil => simpa using hc
    | cons d rest => simpa using hbefore

theorem takeWhile_word {r rest : List Char} (hword : ∀ c ∈ r, isWordChar c = true)
    (hrest : ∀ c ∈ rest.head?, isWordChar c = false) : (r ++ rest).takeWhile isWordChar = r := by
  have hnone : rest.takeWhile isWordChar = [] := by
    cases rest with
    | nil => rfl
    | cons c s => simp [hrest c rfl]
  rw [List.takeWhile_append_of_pos hword, hnone, List.append_nil]

/-- The runs of a text that begins with a run are that run and those of the rest. -/
theorem isRun_append {r rest : List Char} (hr : r ≠ []) (hword : ∀ c ∈ r, isWordChar c = true)
    (hrest : ∀ c ∈ rest.head?, isWordChar c = false) (w : List Char) :
    IsRun w (r ++ rest) ↔ w = r ∨ IsRun w rest := by
  obtain ⟨last, hlast, hlastword⟩ := exists_getLast?_of_word hr hword
  constructor
  · rintro ⟨before, behind, htext, hw, hchars, hbefore, hbehind⟩
    rw [List.append_assoc, eq_comm, List.append_eq_append_iff] at htext
    rcases htext with ⟨u, rfl, hw'⟩ | ⟨u, rfl, rfl⟩
    · -- what comes before `w` is part of the first run, so there is nothing
      have hnil : before = [] := by
        by_contra hne
        obtain ⟨c, hc, hcword⟩ := exists_getLast?_of_word hne fun c hc =>
          hword c (List.mem_append_left u hc)
        rw [hbefore c hc] at hcword
        exact Bool.false_ne_true hcword
      subst hnil
      have hsame := congrArg (List.takeWhile isWordChar) hw'
      rw [takeWhile_word hchars hbehind, takeWhile_word (r := u) hword hrest] at hsame
      exact .inl hsame
    · -- all of the first run comes before `w`, and then there is something between them
      right
      refine ⟨u, behind, (List.append_assoc u w behind).symm, hw, hchars, ?_, hbehind⟩
      intro c hc
      exact hbefore c (by rw [List.getLast?_append, hc]; rfl)
  · rintro (rfl | ⟨before, behind, rfl, hw, hchars, hbefore, hbehind⟩)
    · exact ⟨[], rest, rfl, hr, hword, by simp, hrest⟩
    · refine ⟨r ++ before, behind, by simp, hw, hchars, ?_, hbehind⟩
      cases before with
      | nil =>
        -- the rest does not begin with a word character, and `w` does
        obtain ⟨c, hc, hcword⟩ := exists_head?_of_word hw hchars behind
        exact absurd ((hrest c hc).symm.trans hcword) Bool.false_ne_true
      | cons d before =>
        intro c hc
        rw [List.getLast?_append] at hc
        exact hbefore c (by simpa using hc)

/-- **The words of a text are its maximal runs of word characters.** -/
theorem mem_words_iff (w : List Char) : ∀ text, w ∈ words text ↔ IsRun w text
  | [] => by
    constructor
    · intro h
      exact absurd h List.not_mem_nil
    · rintro ⟨before, behind, htext, hw, -⟩
      simp [hw] at htext
  | c :: s => by
    by_cases hc : isWordChar c = true
    · have hrun : c :: s = (c :: s.takeWhile isWordChar) ++ s.dropWhile isWordChar := by simp
      have hword : ∀ d ∈ c :: s.takeWhile isWordChar, isWordChar d = true := by
        intro d hd
        rcases List.mem_cons.mp hd with rfl | hd
        · exact hc
        · exact List.mem_takeWhile_imp hd
      have hrest : ∀ d ∈ (s.dropWhile isWordChar).head?, isWordChar d = false := by
        intro d hd
        have := List.head?_dropWhile_not isWordChar s
        rw [hd] at this
        simpa using this
      have hlength : (s.dropWhile isWordChar).length ≤ s.length := List.length_dropWhile_le ..
      rw [words_cons_of_word hc, List.mem_cons, mem_words_iff w (s.dropWhile isWordChar), hrun,
        isRun_append (List.cons_ne_nil c _) hword hrest]
    · have hnot : isWordChar c = false := Bool.eq_false_iff.mpr hc
      rw [words_cons_of_not_word hnot, isRun_cons_of_not_word hnot]
      exact mem_words_iff w s
  termination_by text => text.length
  decreasing_by
  · rw [List.length_cons]
    omega
  · exact Nat.lt_succ_self _

end Text

namespace Agent

/-- The words of a message, in lower case. -/
def wordsOf (message : String) : List (List Char) := Text.words (Text.lower message).toList

/-- Is one of the rule's keywords among the words of a message? -/
def Rule.IsNamedIn (r : Rule) (message : String) : Prop :=
  ∃ k ∈ r.keywords, k.toList ∈ wordsOf message

/-- Keywords consist of word characters. -/
theorem word_of_mem_keywords : ∀ r ∈ rules, ∀ k ∈ r.keywords,
    k.toList ≠ [] ∧ ∀ c ∈ k.toList, Text.isWordChar c = true := by
  have hall : (rules.all fun r => r.keywords.all fun k =>
      !k.toList.isEmpty && k.toList.all Text.isWordChar) = true := by decide
  intro r hr k hk
  have hword := List.all_eq_true.mp (List.all_eq_true.mp hall r hr) k hk
  rw [Bool.and_eq_true, List.all_eq_true, Bool.not_eq_true', List.isEmpty_eq_false_iff] at hword
  exact hword

theorem knows_iff {r : Rule} (hr : r ∈ rules) (message : String) :
    r.knows (Text.lower message) = true ↔ r.IsNamedIn message := by
  rw [Rule.knows, List.any_eq_true, Rule.IsNamedIn]
  refine exists_congr fun k => and_congr_right fun hk => ?_
  obtain ⟨hne, hchars⟩ := word_of_mem_keywords r hr k hk
  rw [Text.hasWord_iff_isRun hne hchars, wordsOf, Text.mem_words_iff]

/-- Is the rule the first one that is named in a message? -/
def Rule.Answers (r : Rule) (message : String) : Prop :=
  ∃ earlier later, rules = earlier ++ r :: later ∧ r.IsNamedIn message ∧
    ∀ q ∈ earlier, ¬q.IsNamedIn message

/-- The rule that answers is the first one that is named. -/
theorem rule?_eq_some_iff (message : String) (r : Rule) :
    rule? message = some r ↔ r.Answers message := by
  rw [rule?, List.find?_eq_some_iff_append]
  constructor
  · rintro ⟨hr, earlier, later, hrules, hearlier⟩
    have hmem : r ∈ rules := by simp [hrules]
    refine ⟨earlier, later, hrules, (knows_iff hmem message).mp hr, ?_⟩
    intro q hq hnamed
    have hqrules : q ∈ rules := hrules ▸ List.mem_append_left _ hq
    simpa [(knows_iff hqrules message).mpr hnamed] using hearlier q hq
  · rintro ⟨earlier, later, hrules, hr, hearlier⟩
    have hmem : r ∈ rules := by simp [hrules]
    refine ⟨(knows_iff hmem message).mpr hr, earlier, later, hrules, ?_⟩
    intro q hq
    have hqrules : q ∈ rules := hrules ▸ List.mem_append_left _ hq
    simpa [← knows_iff hqrules] using hearlier q hq

theorem rule?_eq_none_iff (message : String) :
    rule? message = none ↔ ∀ r ∈ rules, ¬r.IsNamedIn message := by
  rw [rule?, List.find?_eq_none]
  exact forall₂_congr fun r hr => not_congr (knows_iff hr message)

/-- Of messages with the same words, the same rules are named. -/
theorem Rule.isNamedIn_congr {message other : String}
    (h : ∀ w, w ∈ wordsOf other ↔ w ∈ wordsOf message) (r : Rule) :
    r.IsNamedIn other ↔ r.IsNamedIn message :=
  exists_congr fun k => and_congr_right fun _ => h k.toList

/--
**A message is answered by its words.** The words of a message are the maximal runs of word
characters in its lower-case text. The first rule with a keyword among them answers, and if there is
none the message is echoed; so a message with the same words is given the same answer, or an echo of
its own.
-/
theorem respond_by_words (message : String) :
    let echoed (text : String) : Reply :=
      ⟨"I've processed your message: \"" ++ text ++ "\". In a full implementation, " ++
        "I would use an LLM or other AI service to generate a more contextual response.", none⟩
    (∀ w, w ∈ wordsOf message ↔ Text.IsRun w (Text.lower message).toList) ∧
    ((∃ earlier r later, rules = earlier ++ r :: later ∧ r.IsNamedIn message ∧
        (∀ q ∈ earlier, ¬q.IsNamedIn message) ∧ respond message = r.reply) ∨
      (∀ r ∈ rules, ¬r.IsNamedIn message) ∧ respond message = echoed message) ∧
    ∀ other, (∀ w, w ∈ wordsOf other ↔ w ∈ wordsOf message) →
      ∃ answer : Option Reply, respond message = answer.getD (echoed message) ∧
        respond other = answer.getD (echoed other) := by
  intro echoed
  refine ⟨fun w => Text.mem_words_iff w _, ?_, ?_⟩
  · cases hrule : rule? message with
    | some r =>
      obtain ⟨earlier, later, hrules, hr, hearlier⟩ := (rule?_eq_some_iff message r).mp hrule
      exact .inl ⟨earlier, r, later, hrules, hr, hearlier, by rw [respond, hrule]⟩
    | none =>
      refine .inr ⟨(rule?_eq_none_iff message).mp hrule, ?_⟩
      rw [respond, hrule]
      rfl
  · intro other hwords
    have hsame : rule? other = rule? message := by
      cases hrule : rule? message with
      | some r =>
        rw [rule?_eq_some_iff, Rule.Answers] at hrule ⊢
        simpa only [Rule.isNamedIn_congr hwords] using hrule
      | none =>
        rw [rule?_eq_none_iff] at hrule ⊢
        simpa only [Rule.isNamedIn_congr hwords] using hrule
    refine ⟨(rule? message).map Rule.reply, ?_, ?_⟩
    · unfold respond
      cases rule? message <;> rfl
    · unfold respond
      rw [hsame]
      cases rule? message <;> rfl

/-- The same words in another order and between other signs ask for the same table. -/
theorem respond_by_words_shuffled :
    (∀ w, w ∈ wordsOf "table/a (A) oh" ↔ w ∈ wordsOf "Oh: a TABLE!") ∧
      (respond "table/a (A) oh").suggestion = some [("type", .str "table")] := by
  have hmessage : wordsOf "Oh: a TABLE!" = ["oh".toList, "a".toList, "table".toList] := by
    decide +kernel
  have hother : wordsOf "table/a (A) oh" =
      ["table".toList, "a".toList, "a".toList, "oh".toList] := by
    decide +kernel
  have hwords : ∀ w, w ∈ wordsOf "table/a (A) oh" ↔ w ∈ wordsOf "Oh: a TABLE!" := by
    intro w
    simp only [hmessage, hother, List.mem_cons, List.not_mem_nil, or_false]
    constructor
    · rintro (h | h | h | h) <;> simp [h]
    · rintro (h | h | h) <;> simp [h]
  have htable : (respond "Oh: a TABLE!").suggestion = some [("type", .str "table")] := by
    decide +kernel
  obtain ⟨-, -, hsame⟩ := respond_by_words "Oh: a TABLE!"
  obtain ⟨answer, hanswer, hshuffled⟩ := hsame _ hwords
  refine ⟨hwords, ?_⟩
  cases answer with
  | some r => rw [hshuffled, ← htable, hanswer]; rfl
  | none =>
    rw [hanswer] at htable
    cases htable

end Agent

end AssistantUI
