/-!
# Dictionaries that remember the order of their keys

Almost everything a definition holds is kept under keys, and almost every answer shows
the order in which keys were first written: props, events, callbacks, state. A `Dict` is
therefore a list of bindings in that order. No key occurs twice, which is a field of the
type, and writing a key that is present keeps its place.

Keys are compared by `==`, which may be coarser than equality: equal keys can be spelled
differently, and then the first spelling stays.
-/

namespace AssistantUI

universe u v w x

/-- Bindings in the order in which their keys were first written. -/
structure Dict (κ : Type u) (α : Type v) [BEq κ] where
  entries : List (κ × α)
  /-- No key is bound twice. -/
  distinct : (entries.map Prod.fst).Pairwise fun j k => (j == k) = false

namespace Dict

variable {κ : Type u} {α : Type v} {β : Type w} [BEq κ]

@[ext] theorem ext {d e : Dict κ α} (h : d.entries = e.entries) : d = e := by
  cases d; cases e; cases h; rfl

instance [DecidableEq κ] [DecidableEq α] : DecidableEq (Dict κ α) := fun d e =>
  decidable_of_iff (d.entries = e.entries) ⟨ext, fun h => h ▸ rfl⟩

/-! ## Writing one key -/

/-- Writes `k` into a list of bindings: in place if it is bound, at the end if not. -/
def write (k : κ) (a : α) : List (κ × α) → List (κ × α)
  | [] => [(k, a)]
  | e :: rest => if e.1 == k then (e.1, a) :: rest else e :: write k a rest

/-- What a list of bindings holds under `k`. -/
def find (k : κ) : List (κ × α) → Option α
  | [] => none
  | e :: rest => if e.1 == k then some e.2 else find k rest

theorem mem_keys_write {k j : κ} {a : α} {l : List (κ × α)}
    (h : j ∈ (write k a l).map Prod.fst) : j = k ∨ j ∈ l.map Prod.fst := by
  induction l with
  | nil => simpa [write] using h
  | cons e rest ih =>
    unfold write at h
    split at h
    · exact .inr (by simpa using h)
    · rw [List.map_cons, List.mem_cons] at h
      rcases h with h | h
      · exact .inr (by simp [h])
      · exact (ih h).imp_right fun hj => by rw [List.map_cons]; exact .tail _ hj

theorem distinct_write {k : κ} {a : α} {l : List (κ × α)}
    (h : (l.map Prod.fst).Pairwise fun i j => (i == j) = false) :
    ((write k a l).map Prod.fst).Pairwise fun i j => (i == j) = false := by
  induction l with
  | nil => simp [write]
  | cons e rest ih =>
    rw [List.map_cons, List.pairwise_cons] at h
    unfold write
    split
    · rw [List.map_cons, List.pairwise_cons]
      exact h
    · next hk =>
      rw [List.map_cons, List.pairwise_cons]
      refine ⟨fun j hj => ?_, ih h.2⟩
      rcases mem_keys_write hj with rfl | hj
      · simpa using hk
      · exact h.1 j hj

theorem find_write [EquivBEq κ] (k j : κ) (a : α) (l : List (κ × α)) :
    find j (write k a l) = if j == k then some a else find j l := by
  induction l with
  | nil => simp [write, find, BEq.comm]
  | cons e rest ih =>
    unfold write
    split
    · next hk =>
      rw [find, find, BEq.congr_left (c := j) hk, BEq.comm (a := k)]
      split <;> rfl
    · next hk =>
      rw [find, find, ih]
      by_cases h : e.1 == j
      · have hj : (j == k) = false := by
          rw [← BEq.congr_left h]
          simpa using hk
        simp [h, hj]
      · simp [h]

theorem write_of_not_mem {k : κ} {a : α} {l : List (κ × α)}
    (h : ∀ j ∈ l.map Prod.fst, (j == k) = false) : write k a l = l ++ [(k, a)] := by
  induction l with
  | nil => rfl
  | cons e rest ih =>
    rw [write, h e.1 (by simp), ih fun j hj => h j (by rw [List.map_cons]; exact .tail _ hj)]
    rfl

/-! ## The operations -/

/-- The dictionary without bindings. -/
def empty : Dict κ α := ⟨[], .nil⟩

instance : EmptyCollection (Dict κ α) := ⟨empty⟩
instance : Inhabited (Dict κ α) := ⟨empty⟩

/-- The keys, in order. -/
def keys (d : Dict κ α) : List κ := d.entries.map Prod.fst

/-- The value under a key. -/
def get? (d : Dict κ α) (k : κ) : Option α := find k d.entries

/-- Is the key bound? -/
def contains (d : Dict κ α) (k : κ) : Bool := (d.get? k).isSome

/-- How many keys are bound. -/
def size (d : Dict κ α) : Nat := d.entries.length

/-- Is nothing bound? -/
def isEmpty (d : Dict κ α) : Bool := d.entries.isEmpty

/-- Binds a key: in place if it was bound, as the last one if not. -/
def insert (d : Dict κ α) (k : κ) (a : α) : Dict κ α :=
  ⟨write k a d.entries, distinct_write d.distinct⟩

/-- Binds a key unless it is bound already. -/
def insertNew (d : Dict κ α) (k : κ) (a : α) : Dict κ α :=
  if d.contains k then d else d.insert k a

/-- Binds a list of keys, one after another. -/
def insertList (d : Dict κ α) (l : List (κ × α)) : Dict κ α :=
  l.foldl (fun d e => d.insert e.1 e.2) d

/-- The dictionary of a list of bindings: a repeated key keeps its first place, its last value. -/
def ofList (l : List (κ × α)) : Dict κ α := empty.insertList l

/-- Every binding of `e` written into `d`. -/
def update (d e : Dict κ α) : Dict κ α := d.insertList e.entries

/-- The same keys with other values. -/
def map (f : α → β) (d : Dict κ α) : Dict κ β where
  entries := d.entries.map fun e => (e.1, f e.2)
  distinct := by simpa [List.map_map, Function.comp_def] using d.distinct

/-- The same values under other keys. Different keys have to stay different. -/
def mapKeys {μ : Type x} [BEq μ] (f : κ → μ) (hf : ∀ j k, (j == k) = false → (f j == f k) = false)
    (d : Dict κ α) : Dict μ α where
  entries := d.entries.map fun e => (f e.1, e.2)
  distinct := by
    have := List.Pairwise.map (S := fun j k : μ => (j == k) = false) f hf d.distinct
    simpa [List.map_map, Function.comp_def] using this

/-! ## What the operations do to the list of bindings -/

@[simp] theorem entries_empty : (∅ : Dict κ α).entries = [] := rfl

@[simp] theorem get?_empty (k : κ) : (∅ : Dict κ α).get? k = none := rfl

theorem get?_insert [EquivBEq κ] (d : Dict κ α) (k j : κ) (a : α) :
    (d.insert k a).get? j = if j == k then some a else d.get? j := find_write k j a d.entries

@[simp] theorem get?_insert_self [EquivBEq κ] (d : Dict κ α) (k : κ) (a : α) :
    (d.insert k a).get? k = some a := by simp [get?_insert]

@[simp] theorem entries_map (f : α → β) (d : Dict κ α) :
    (d.map f).entries = d.entries.map fun e => (e.1, f e.2) := rfl

@[simp] theorem entries_mapKeys {μ : Type x} [BEq μ] (f : κ → μ)
    (hf : ∀ j k, (j == k) = false → (f j == f k) = false) (d : Dict κ α) :
    (d.mapKeys f hf).entries = d.entries.map fun e => (f e.1, e.2) := rfl

theorem keys_nodup [LawfulBEq κ] (d : Dict κ α) : d.keys.Nodup :=
  d.distinct.imp fun h e => by simp [e] at h

theorem entries_insert_of_not_mem {d : Dict κ α} {k : κ} {a : α}
    (h : ∀ j ∈ d.keys, (j == k) = false) : (d.insert k a).entries = d.entries ++ [(k, a)] :=
  write_of_not_mem h

/-- Writing bindings whose keys are new and distinct appends them. -/
theorem entries_insertList_of_distinct (d : Dict κ α) (l : List (κ × α))
    (h : ((d.entries ++ l).map Prod.fst).Pairwise fun j k => (j == k) = false) :
    (d.insertList l).entries = d.entries ++ l := by
  induction l generalizing d with
  | nil => simp [insertList]
  | cons e rest ih =>
    have hk : ∀ j ∈ d.keys, (j == e.1) = false := fun j hj => by
      rw [List.map_append, List.pairwise_append] at h
      exact h.2.2 j hj e.1 (by simp)
    have he : (d.insert e.1 e.2).entries = d.entries ++ [e] := entries_insert_of_not_mem hk
    have := ih (d.insert e.1 e.2) (by rw [he]; simpa using h)
    rw [insertList, List.foldl_cons]
    rw [insertList, he] at this
    simpa using this

/-- Reading the bindings of a dictionary back gives the dictionary. -/
@[simp] theorem ofList_entries (d : Dict κ α) : ofList d.entries = d :=
  ext (entries_insertList_of_distinct empty d.entries d.distinct)

example : (ofList [("a", 1), ("b", 2), ("a", 3)]).entries = [("a", 3), ("b", 2)] := by decide

end Dict

end AssistantUI
