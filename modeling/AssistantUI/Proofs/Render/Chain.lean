import AssistantUI.Position

/-!
# Chains of indices and the keys made of them

A node of a definition is named by the chain of indices that leads to it, and an event of it
by that chain and the event's name. The program knows both only as texts joined by dots. A
number holds no dot, so as long as no event name holds one either, the text can be cut at
its dots again: two keys are equal only if chain and name are (`key_injective`). This is why
a table under such keys can lose nothing.
-/

namespace AssistantUI

/-- The indices that lead from the root to a place, the outermost first. -/
abbrev Chain := List Nat

namespace Position

/-- The position of a chain. -/
def ofChain (q : Chain) : Position := ".".intercalate (q.map toString)

/-- The key of an event: the indices of its node and its own name, joined by dots. -/
def key (q : Chain) (name : String) : Position := ".".intercalate (q.map toString ++ [name])

@[simp] theorem ofChain_nil : ofChain [] = "" := rfl

theorem ofChain_ne_empty {q : Chain} (h : q ≠ []) : ofChain q ≠ "" := by
  cases q with
  | nil => exact absurd rfl h
  | cons i rest =>
    intro he
    -- a number has a digit at least
    have hi : (toString i).toList ≠ [] := by
      rw [Nat.toString_eq_repr, Nat.toList_repr]
      exact Nat.toDigits_ne_nil
    have hlist := congrArg String.toList he
    rw [ofChain, List.map_cons, String.toList_intercalate] at hlist
    cases hrest : rest.map toString with
    | nil =>
      rw [hrest, List.map_cons, List.map_nil, List.intercalate_singleton] at hlist
      exact hi hlist
    | cons s ss =>
      rw [hrest, List.map_cons, List.map_cons, List.intercalate_cons_cons] at hlist
      exact hi (List.append_eq_nil_iff.mp (List.append_eq_nil_iff.mp hlist).1).1

/-- What lies under a chain's position has the words of the chain and one more. -/
theorem under_ofChain (q : Chain) (name : String) : (ofChain q).under name = key q name := by
  unfold under
  by_cases hq : q = []
  · subst hq
    rw [if_pos ofChain_nil, key, List.map_nil, List.nil_append, String.intercalate_singleton]
  · rw [if_neg (ofChain_ne_empty hq), key, ofChain,
      String.intercalate_append_of_ne_nil (by simpa using hq) (by simp),
      String.intercalate_singleton]

theorem item_ofChain (q : Chain) (i : Nat) : (ofChain q).item i = ofChain (q ++ [i]) := by
  rw [item, under_ofChain, key, ofChain, List.map_append, List.map_cons, List.map_nil]

/-! ## Cutting a key at its dots -/

/-- A number is spelled by digits. -/
theorem isDigit_of_mem_toString {i : Nat} {c : Char} (h : c ∈ (toString i).toList) :
    c.isDigit = true := by
  rw [Nat.toString_eq_repr, Nat.toList_repr] at h
  exact Nat.isDigit_of_mem_toDigits (by decide) (by decide) h

theorem dot_not_mem_toString (i : Nat) : '.' ∉ (toString i).toList :=
  fun h => absurd (isDigit_of_mem_toString h) (by decide)

theorem toString_injective {i j : Nat} (h : (toString i).toList = (toString j).toList) :
    i = j := by
  rw [Nat.toString_eq_repr, Nat.toString_eq_repr, Nat.toList_repr, Nat.toList_repr] at h
  rw [← Nat.ofDigitChars_ten_toDigits (n := i), h, Nat.ofDigitChars_ten_toDigits]

/-- The words of a key, read back from it. -/
theorem splitOn_key {q : Chain} {name : String} (h : '.' ∉ name.toList) :
    (key q name).toList.splitOn '.' = q.map (fun i => (toString i).toList) ++ [name.toList] := by
  have hdot : ".".toList = ['.'] := rfl
  rw [key, String.toList_intercalate, hdot, List.map_append, List.map_map]
  -- cutting undoes joining, since no word has a dot in it
  refine List.splitOn_intercalate '.' ?_ (by simp)
  intro w hw
  rcases List.mem_append.mp hw with hw | hw
  · obtain ⟨i, -, rfl⟩ := List.mem_map.mp hw
    exact dot_not_mem_toString i
  · rw [List.map_cons, List.map_nil, List.mem_singleton] at hw
    subst hw
    exact h

/-- **A key says which event of which node it belongs to**, unless names hold dots. -/
theorem key_injective {q r : Chain} {a b : String} (ha : '.' ∉ a.toList) (hb : '.' ∉ b.toList)
    (h : key q a = key r b) : q = r ∧ a = b := by
  have hwords := congrArg (fun s => s.toList.splitOn '.') h
  simp only [splitOn_key ha, splitOn_key hb] at hwords
  obtain ⟨hq, hname⟩ := List.append_inj' hwords rfl
  refine ⟨?_, String.toList_inj.mp (List.cons.inj hname).1⟩
  exact (List.map_inj_right fun i j hij => toString_injective hij).mp hq

/-- A name with a dot can spell the key of another node's event. -/
example : key [] "0.onClick" = key [0] "onClick" := by decide +kernel

/-! ## Words of texts -/

/-- Words end at the first separator. -/
theorem prefix_of_words {sep : Char} {v w r s : List Char} (hv : sep ∉ v) (hw : sep ∉ w) :
    v ++ sep :: r <+: w ++ sep :: s ↔ v = w ∧ r <+: s := by
  induction v generalizing w with
  | nil =>
    cases w with
    | nil => simp
    | cons d rest =>
      have hne : sep ≠ d := fun h => hw (h ▸ List.mem_cons_self)
      simp [List.cons_prefix_cons, hne]
  | cons c v ih =>
    rw [List.mem_cons, not_or] at hv
    cases w with
    | nil => simp [List.cons_prefix_cons, Ne.symm hv.1]
    | cons d w =>
      rw [List.mem_cons, not_or] at hw
      rw [List.cons_append, List.cons_append, List.cons_prefix_cons, ih hv.2 hw.2,
        List.cons_eq_cons, and_assoc]

theorem toList_key_cons (i : Nat) (q : Chain) (name : String) :
    (key (i :: q) name).toList = (toString i).toList ++ '.' :: (key q name).toList := by
  have hrest : q.map toString ++ [name] ≠ [] := by simp
  rw [key, List.map_cons, List.cons_append, key]
  cases hwords : q.map toString ++ [name] with
  | nil => exact absurd hwords hrest
  | cons w ws =>
    rw [String.toList_intercalate, List.map_cons, List.map_cons, List.intercalate_cons_cons,
      String.toList_intercalate, List.map_cons, List.append_assoc]
    rfl

/-- A position and a dot are the key of no event there. -/
theorem ofChain_append_dot {p : Chain} (hp : p ≠ []) : ofChain p ++ "." = key p "" := by
  rw [← under_ofChain, under, if_neg (ofChain_ne_empty hp), String.append_empty]

/-- Different chains have different positions. -/
theorem ofChain_injective {q r : Chain} (h : ofChain q = ofChain r) : q = r := by
  have hkey : key q "" = key r "" := by rw [← under_ofChain, h, under_ofChain]
  exact (key_injective (by decide) (by decide) hkey).1

/-- A position is spelled by digits and dots. -/
theorem colon_not_mem_ofChain (q : Chain) : ':' ∉ (ofChain q).toList := by
  have hkey : ':' ∉ (key q "").toList := by
    induction q with
    | nil =>
      have hempty : key [] "" = "" := String.intercalate_singleton
      rw [hempty]
      exact List.not_mem_nil
    | cons i q ih =>
      rw [toList_key_cons, List.mem_append, List.mem_cons]
      rintro (hi | hdot | hq)
      · exact absurd (isDigit_of_mem_toString hi) (by decide)
      · exact absurd hdot (by decide)
      · exact ih hq
  by_cases hq : q = []
  · subst hq
    exact List.not_mem_nil
  · rw [← ofChain_append_dot hq, String.toList_append, List.mem_append, not_or] at hkey
    exact hkey.1

/-- **A position and a label behind a colon can be told apart again**, whatever the label is. -/
theorem labelled_injective {q r : Chain} {a b : String}
    (h : ofChain q ++ ":" ++ a = ofChain r ++ ":" ++ b) : q = r ∧ a = b := by
  have htexts : (ofChain q).toList ++ ':' :: a.toList = (ofChain r).toList ++ ':' :: b.toList := by
    have hlist := congrArg String.toList h
    simpa using hlist
  have hprefix : (ofChain q).toList ++ ':' :: a.toList <+: (ofChain r).toList ++ ':' :: b.toList :=
    htexts ▸ List.prefix_rfl
  have hposition : (ofChain q).toList = (ofChain r).toList :=
    ((prefix_of_words (colon_not_mem_ofChain q) (colon_not_mem_ofChain r)).mp hprefix).1
  rw [hposition] at htexts
  have hlabel : a.toList = b.toList := (List.cons.inj (List.append_cancel_left htexts)).2
  exact ⟨ofChain_injective (String.toList_inj.mp hposition), String.toList_inj.mp hlabel⟩

end Position

end AssistantUI
