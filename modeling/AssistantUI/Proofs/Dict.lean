import AssistantUI.Dict

/-!
# What dictionaries hold

Facts about bindings that statements about definitions and renderings lean on: where a
value that is held came from, and what is found in lists of bindings that are put together.
-/

namespace AssistantUI.Dict

universe u v w

variable {κ : Type u} {α : Type v} [BEq κ]

/-! ## Where values come from -/

theorem value_of_mem_write {k : κ} {a : α} {l : List (κ × α)} {e : κ × α}
    (h : e ∈ write k a l) : e.2 = a ∨ e.2 ∈ l.map Prod.snd := by
  induction l with
  | nil =>
    rw [write, List.mem_singleton] at h
    exact .inl (by rw [h])
  | cons d rest ih =>
    unfold write at h
    split at h
    · rcases List.mem_cons.mp h with rfl | h
      · exact .inl rfl
      · exact .inr (List.mem_cons_of_mem _ (List.mem_map_of_mem h))
    · rcases List.mem_cons.mp h with rfl | h
      · exact .inr List.mem_cons_self
      · exact (ih h).imp_right (List.mem_cons_of_mem _)

theorem value_of_mem_insertList {d : Dict κ α} {l : List (κ × α)} {e : κ × α}
    (h : e ∈ (d.insertList l).entries) :
    e.2 ∈ d.entries.map Prod.snd ∨ e.2 ∈ l.map Prod.snd := by
  induction l generalizing d with
  | nil => exact .inl (List.mem_map_of_mem h)
  | cons c rest ih =>
    rcases ih (d := d.insert c.1 c.2) h with h | h
    · obtain ⟨e', he', heq⟩ := List.mem_map.mp h
      rw [← heq]
      rcases value_of_mem_write he' with h | h
      · exact .inr (by simp [h])
      · exact .inl h
    · exact .inr (List.mem_cons_of_mem _ h)

/-- A dictionary made of a list holds values of that list only. -/
theorem value_of_mem_ofList {l : List (κ × α)} {e : κ × α}
    (h : e ∈ (ofList l).entries) : e.2 ∈ l.map Prod.snd := by
  rcases value_of_mem_insertList h with h | h
  · exact absurd h (by simp [empty])
  · exact h

/-- What is found under a key is bound to a key like it. -/
theorem mem_of_find {k : κ} {a : α} {l : List (κ × α)} (h : find k l = some a) :
    ∃ e ∈ l, (e.1 == k) = true ∧ e.2 = a := by
  induction l with
  | nil => cases h
  | cons e rest ih =>
    unfold find at h
    split at h
    · next hk => exact ⟨e, List.mem_cons_self, hk, Option.some.inj h⟩
    · obtain ⟨f, hf, hfound⟩ := ih h
      exact ⟨f, List.mem_cons_of_mem _ hf, hfound⟩

theorem isSome_find_of_mem {k : κ} {l : List (κ × α)} {e : κ × α} (he : e ∈ l)
    (hk : (e.1 == k) = true) : (find k l).isSome = true := by
  induction l with
  | nil => exact absurd he List.not_mem_nil
  | cons e' rest ih =>
    unfold find
    split
    · rfl
    · next hne =>
      rcases List.mem_cons.mp he with rfl | he
      · exact absurd hk hne
      · exact ih he

/-- What a dictionary holds under a key is the value of a binding. -/
theorem value_of_find {k : κ} {a : α} {l : List (κ × α)} (h : find k l = some a) :
    a ∈ l.map Prod.snd := by
  obtain ⟨e, he, -, rfl⟩ := mem_of_find h
  exact List.mem_map_of_mem he

/-- Under a key, a dictionary made of a list holds a value of that list. -/
theorem value_of_get?_ofList {k : κ} {a : α} {l : List (κ × α)} (h : (ofList l).get? k = some a) :
    a ∈ l.map Prod.snd := by
  obtain ⟨e, he, rfl⟩ := List.mem_map.mp (value_of_find h)
  exact value_of_mem_ofList he

/-! ## Lists of bindings -/

/-- A list without a repeated key is a dictionary as it stands. -/
theorem entries_ofList_of_nodup [LawfulBEq κ] {l : List (κ × α)}
    (h : (l.map Prod.fst).Nodup) : (ofList l).entries = l := by
  have hd : (l.map Prod.fst).Pairwise fun j k => (j == k) = false :=
    h.imp fun hne => by simpa using hne
  exact entries_insertList_of_distinct empty l hd

theorem find_append (k : κ) (l m : List (κ × α)) :
    find k (l ++ m) = (find k l).or (find k m) := by
  induction l with
  | nil => simp [find]
  | cons e rest ih =>
    rw [List.cons_append, find, find, ih]
    split <;> simp

/-- It does not matter how a key is spelled. -/
theorem find_congr [EquivBEq κ] {j k : κ} (h : (j == k) = true) (l : List (κ × α)) :
    find j l = find k l := by
  induction l with
  | nil => rfl
  | cons e rest ih => rw [find, find, ih, BEq.congr_right h]

/-- In a list without a repeated key, each binding is what is found under its key. -/
theorem find_of_mem [LawfulBEq κ] {l : List (κ × α)} (h : (l.map Prod.fst).Nodup) {k : κ} {a : α}
    (hmem : (k, a) ∈ l) : find k l = some a := by
  induction l with
  | nil => exact absurd hmem List.not_mem_nil
  | cons e rest ih =>
    rw [List.map_cons, List.nodup_cons] at h
    rcases List.mem_cons.mp hmem with he | hrest
    · rw [← he, find, if_pos (BEq.rfl : (k == k) = true)]
    · have hne : ¬ (e.1 == k) = true := by
        intro heq
        rw [eq_of_beq heq] at h
        exact h.1 (List.mem_map_of_mem (f := Prod.fst) hrest)
      rw [find, if_neg hne]
      exact ih h.2 hrest

theorem get?_of_mem [LawfulBEq κ] {d : Dict κ α} {k : κ} {a : α} (h : (k, a) ∈ d.entries) :
    d.get? k = some a :=
  find_of_mem d.keys_nodup h

/-- Where no key is repeated, it does not matter from which end a binding is looked for. -/
theorem find_reverse [EquivBEq κ] {l : List (κ × α)}
    (h : (l.map Prod.fst).Pairwise fun j k => (j == k) = false) (k : κ) :
    find k l.reverse = find k l := by
  induction l with
  | nil => rfl
  | cons e rest ih =>
    rw [List.map_cons, List.pairwise_cons] at h
    rw [List.reverse_cons, find_append, ih h.2, find, find, find]
    by_cases hk : (e.1 == k) = true
    · have hnone : find k rest = none := by
        refine Option.eq_none_iff_forall_ne_some.mpr fun a ha => ?_
        obtain ⟨f, hf, hfk, -⟩ := mem_of_find ha
        have hne := h.1 f.1 (List.mem_map_of_mem hf)
        rw [BEq.trans hk (BEq.symm hfk)] at hne
        cases hne
      rw [hnone, if_pos hk, Option.none_or]
    · rw [if_neg hk, if_neg hk, Option.or_none]

theorem find_reverse_of_nodup [LawfulBEq κ] {l : List (κ × α)} (h : (l.map Prod.fst).Nodup)
    (k : κ) : find k l.reverse = find k l :=
  find_reverse (h.imp fun hne => by simpa using hne) k

/-- The same value may be bound to many keys. -/
theorem find_map_same [LawfulBEq κ] (k : κ) (a : α) (ks : List κ) :
    find k (ks.map fun j => (j, a)) = if k ∈ ks then some a else none := by
  induction ks with
  | nil => rfl
  | cons j rest ih =>
    rw [List.map_cons, find, ih]
    by_cases hk : j = k
    · subst hk
      simp
    · simp [hk, Ne.symm hk]

/-! ## Writing one binding after another -/

theorem get?_insertList [EquivBEq κ] (d : Dict κ α) (l : List (κ × α)) (k : κ) :
    (d.insertList l).get? k = (find k l.reverse).or (d.get? k) := by
  induction l generalizing d with
  | nil => rfl
  | cons e rest ih =>
    have hrest : (d.insertList (e :: rest)).get? k =
        (find k rest.reverse).or ((d.insert e.1 e.2).get? k) := ih (d.insert e.1 e.2)
    rw [hrest, List.reverse_cons, find_append, Option.or_assoc, get?_insert, find, find,
      BEq.comm (a := k)]
    split <;> rfl

/-- A dictionary made of a list holds the last value that the list has under a key. -/
theorem get?_ofList [EquivBEq κ] (l : List (κ × α)) (k : κ) :
    (ofList l).get? k = find k l.reverse := by
  have h := get?_insertList (empty : Dict κ α) l k
  have hempty : (empty : Dict κ α).get? k = none := rfl
  rw [hempty, Option.or_none] at h
  exact h

theorem keys_write [LawfulBEq κ] (k : κ) (a : α) (l : List (κ × α)) :
    (write k a l).map Prod.fst =
      if k ∈ l.map Prod.fst then l.map Prod.fst else l.map Prod.fst ++ [k] := by
  induction l with
  | nil => simp [write]
  | cons e rest ih =>
    unfold write
    by_cases hk : e.1 = k
    · simp [hk]
    · simp only [beq_iff_eq, hk, if_false, List.map_cons, ih, List.mem_cons, Ne.symm hk, false_or]
      split <;> simp

/-- Keys that are new come behind the others, in the order in which they are first written. -/
theorem keys_insertList [LawfulBEq κ] (d : Dict κ α) (l : List (κ × α)) :
    (d.insertList l).keys = d.keys ++ ((l.map Prod.fst).removeAll d.keys).eraseDups := by
  induction l generalizing d with
  | nil => simp [insertList]
  | cons e rest ih =>
    have hrest : (d.insertList (e :: rest)).keys = _ := ih (d.insert e.1 e.2)
    have hinsert : (d.insert e.1 e.2).keys = if e.1 ∈ d.keys then d.keys else d.keys ++ [e.1] :=
      keys_write e.1 e.2 d.entries
    rw [hrest, hinsert, List.map_cons]
    by_cases hk : e.1 ∈ d.keys
    · rw [if_pos hk]
      simp [List.cons_removeAll, hk]
    · have hcons : (e.1 :: rest.map Prod.fst).removeAll d.keys =
          e.1 :: (rest.map Prod.fst).removeAll d.keys := by simp [List.cons_removeAll, hk]
      have hsnoc : (rest.map Prod.fst).removeAll (d.keys ++ [e.1]) =
          ((rest.map Prod.fst).removeAll d.keys).filter fun k => !k == e.1 := by
        unfold List.removeAll
        rw [List.filter_filter]
        refine List.filter_congr fun k _ => ?_
        rw [Bool.eq_iff_iff]
        simp [and_comm]
      rw [if_neg hk, List.append_assoc, hcons, hsnoc, List.eraseDups_cons]
      rfl

theorem keys_ofList [LawfulBEq κ] (l : List (κ × α)) :
    (ofList l).keys = (l.map Prod.fst).eraseDups := by
  have h := keys_insertList (empty : Dict κ α) l
  have hempty : (empty : Dict κ α).keys = [] := rfl
  rw [hempty, List.nil_append, List.removeAll_nil] at h
  exact h

theorem keys_insert (d : Dict κ α) (k : κ) (a : α) :
    (d.insert k a).keys = if d.contains k then d.keys else d.keys ++ [k] := by
  show (write k a d.entries).map Prod.fst =
    if (find k d.entries).isSome then d.entries.map Prod.fst else d.entries.map Prod.fst ++ [k]
  induction d.entries with
  | nil => rfl
  | cons e rest ih =>
    unfold write find
    split
    · rfl
    · rw [List.map_cons, List.map_cons, ih]
      split <;> rfl

/-- A binding that is added unless its key is bound comes behind the others. -/
theorem entries_insertNew (d : Dict κ α) (k : κ) (a : α) :
    (d.insertNew k a).entries = d.entries ++ if d.contains k then [] else [(k, a)] := by
  unfold insertNew
  by_cases hk : d.contains k = true
  · rw [if_pos hk, if_pos hk, List.append_nil]
  · rw [if_neg hk, if_neg hk]
    refine write_of_not_mem fun j hj => ?_
    obtain ⟨e, he, rfl⟩ := List.mem_map.mp hj
    rw [← Bool.not_eq_true]
    intro hsame
    exact hk (isSome_find_of_mem he hsame)

theorem keys_insertList_of_distinct [EquivBEq κ] (d : Dict κ α) {l : List (κ × α)}
    (h : (l.map Prod.fst).Pairwise fun j k => (j == k) = false) :
    (d.insertList l).keys = d.keys ++ (l.map Prod.fst).filter fun k => !d.contains k := by
  induction l generalizing d with
  | nil => exact (List.append_nil _).symm
  | cons e rest ih =>
    rw [List.map_cons, List.pairwise_cons] at h
    have hrest : (d.insertList (e :: rest)).keys = _ := ih (d.insert e.1 e.2) h.2
    -- the first key is none of the others
    have hothers : (rest.map Prod.fst).filter (fun k => !(d.insert e.1 e.2).contains k) =
        (rest.map Prod.fst).filter fun k => !d.contains k := by
      refine List.filter_congr fun k hk => ?_
      rw [contains, get?_insert, BEq.comm (a := k), if_neg (by simp [h.1 k hk])]
      rfl
    rw [hrest, hothers, keys_insert, List.map_cons, List.filter_cons]
    by_cases hk : d.contains e.1 = true
    · simp [hk]
    · simp [hk]

/-- What is written replaces what was there under the same key. -/
theorem get?_update [EquivBEq κ] (d e : Dict κ α) (k : κ) :
    (d.update e).get? k = (e.get? k).or (d.get? k) := by
  rw [update, get?_insertList, find_reverse e.distinct]
  rfl

/-- Keys that are written for the first time come behind the others, in their order. -/
theorem keys_update [EquivBEq κ] (d e : Dict κ α) :
    (d.update e).keys = d.keys ++ e.keys.filter fun k => !d.contains k :=
  keys_insertList_of_distinct d e.distinct

/-- Away from a key nothing is changed by writing it. -/
theorem filter_write [LawfulBEq κ] (k : κ) (a : α) (l : List (κ × α)) :
    (write k a l).filter (fun e => e.1 != k) = l.filter fun e => e.1 != k := by
  induction l with
  | nil => simp [write]
  | cons e rest ih =>
    unfold write
    by_cases hk : e.1 = k
    · simp [hk]
    · simp [hk, ih]

theorem filter_insertNew [LawfulBEq κ] (d : Dict κ α) (k : κ) (a : α) :
    (d.insertNew k a).entries.filter (fun e => e.1 != k) =
      d.entries.filter fun e => e.1 != k := by
  unfold insertNew
  split
  · rfl
  · exact filter_write k a d.entries

/-- A dictionary lists its keys with what it holds under them. -/
theorem entries_eq_map [LawfulBEq κ] (d : Dict κ α) (a : α) :
    d.entries = d.keys.map fun k => (k, (d.get? k).getD a) := by
  rw [keys, List.map_map]
  refine (List.map_id _).symm.trans (List.map_congr_left fun e he => ?_)
  rw [Function.comp_apply, get?_of_mem (k := e.1) (a := e.2) he]
  rfl

/-! ## Other values under the same keys -/

section

variable {β : Type w} (f : α → β)

theorem mapValues_write (k : κ) (a : α) (l : List (κ × α)) :
    (write k a l).map (fun e => (e.1, f e.2)) = write k (f a) (l.map fun e => (e.1, f e.2)) := by
  induction l with
  | nil => rfl
  | cons e rest ih =>
    rw [write, List.map_cons, write]
    split
    · rfl
    · rw [List.map_cons, ih]

theorem map_insert (d : Dict κ α) (k : κ) (a : α) :
    (d.insert k a).map f = (d.map f).insert k (f a) := ext (mapValues_write f k a d.entries)

theorem map_insertList (d : Dict κ α) (l : List (κ × α)) :
    (d.insertList l).map f = (d.map f).insertList (l.map fun e => (e.1, f e.2)) := by
  induction l generalizing d with
  | nil => rfl
  | cons e rest ih =>
    have hrest : (d.insertList (e :: rest)).map f = _ := ih (d.insert e.1 e.2)
    rw [hrest, map_insert]
    rfl

theorem map_ofList (l : List (κ × α)) :
    (ofList l).map f = ofList (l.map fun e => (e.1, f e.2)) := map_insertList f empty l

theorem get?_map (d : Dict κ α) (k : κ) : (d.map f).get? k = (d.get? k).map f := by
  rw [get?, entries_map, get?]
  induction d.entries with
  | nil => rfl
  | cons e rest ih =>
    rw [List.map_cons, find, find, ih]
    split <;> rfl

end

/-! ## Other keys for the same values -/

section

variable {μ : Type w} [BEq μ] {f : κ → μ}

theorem map_write (hf : ∀ j k, (f j == f k) = (j == k)) (k : κ) (a : α) (l : List (κ × α)) :
    (write k a l).map (fun e => (f e.1, e.2)) = write (f k) a (l.map fun e => (f e.1, e.2)) := by
  induction l with
  | nil => rfl
  | cons e rest ih =>
    rw [write, List.map_cons, write, hf]
    split
    · rfl
    · rw [List.map_cons, ih]

theorem mapKeys_insertList (hf : ∀ j k, (f j == f k) = (j == k))
    (h : ∀ j k, (j == k) = false → (f j == f k) = false) (d : Dict κ α) (l : List (κ × α)) :
    (d.insertList l).mapKeys f h = (d.mapKeys f h).insertList (l.map fun e => (f e.1, e.2)) := by
  induction l generalizing d with
  | nil => rfl
  | cons e rest ih =>
    have hrest : (d.insertList (e :: rest)).mapKeys f h = _ := ih (d.insert e.1 e.2)
    have hinsert : (d.insert e.1 e.2).mapKeys f h = (d.mapKeys f h).insert (f e.1) e.2 :=
      ext (map_write hf e.1 e.2 d.entries)
    rw [hrest, hinsert]
    rfl

end

end AssistantUI.Dict
