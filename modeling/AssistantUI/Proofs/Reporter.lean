import AssistantUI.Diagnostic

/-!
# What a reporter keeps

A reporter only ever gets longer, and an issue that carries a key is noted once at most under its
code and key (`Issue.onceId?`). What is on record under such a pair is all that decides whether a
report adds a note: of issues whose pairs are new and different each is noted, in order
(`diagnostics_addAll`), and issues whose pairs are on record leave the reporter as it is
(`addAll_of_has`).
-/

namespace AssistantUI

/-- The code and the key under which an issue is noted only once. -/
def Issue.onceId? (i : Issue) : Option (String × String) := i.onceKey?.map fun key => (i.code, key)

/-- A value is taken for a text only if it is that text. -/
theorem Json.alike_str (j : Json) (s : String) : j.alike (.str s) = decide (j = .str s) := by
  cases j with
  | str t =>
    rw [Json.alike, Bool.eq_iff_iff]
    simp
  | _ => simp [Json.alike]

namespace Reporter

theorem isSome_seen? (r : Reporter) (code key : Json) : (r.seen? code key).isSome =
    (r.seen.map Prod.fst).any fun e => e.1.alike code && e.2.alike key := by
  rw [seen?, Option.isSome_map, List.any_map]
  exact List.isSome_find? ..

/-- Is there a note on record under a code and a key? -/
def has (r : Reporter) (id : String × String) : Bool := (r.seen? (.str id.1) (.str id.2)).isSome

/-- A reporter that nothing is on record of. -/
theorem has_of_seen_nil {r : Reporter} (h : r.seen = []) (id : String × String) :
    r.has id = false := by
  rw [has, isSome_seen?, h]
  rfl

/-! ## One issue -/

/-- An issue is noted unless there is a note on record under its code and key. -/
theorem add_eq (r : Reporter) (i : Issue) :
    r.add i = if i.onceId?.any r.has then r else r.append i.report := by
  unfold add record Issue.onceId?
  cases hkey : i.onceKey? with
  | none =>
    have hreport : i.report.onceKey? = none := by rw [Issue.report, hkey]; rfl
    rw [hreport]
    rfl
  | some key =>
    have hreport : i.report.onceKey? = some (.str key) := by rw [Issue.report, hkey]; rfl
    have hseen : (some (Json.str key)).bind (r.seen? i.report.code) =
        r.seen? (.str i.code) (.str key) := rfl
    have hhas : ((some key).map fun key => (i.code, key)).any r.has =
        (r.seen? (.str i.code) (.str key)).isSome := rfl
    rw [hreport, hseen, hhas]
    cases r.seen? (.str i.code) (.str key) <;> rfl

theorem add_of_has {r : Reporter} {i : Issue} {id : String × String} (hid : i.onceId? = some id)
    (h : r.has id = true) : r.add i = r := by
  rw [add_eq, hid, Option.any_some, if_pos h]

theorem add_of_new {r : Reporter} {i : Issue} (h : ∀ id, i.onceId? = some id → r.has id = false) :
    r.add i = r.append i.report := by
  rw [add_eq]
  cases hid : i.onceId? with
  | none => rfl
  | some id => rw [Option.any_some, h id hid, if_neg Bool.false_ne_true]

theorem mountId_add (r : Reporter) (i : Issue) : (r.add i).mountId = r.mountId := by
  rw [add_eq]
  split <;> rfl

theorem seen_append (r : Reporter) (report : Report) : (r.append report).seen =
    r.seen ++ (report.onceKey?.map fun key => ((report.code, key), r.note report)).toList := by
  unfold append
  cases report.onceKey? with
  | none => exact (List.append_nil _).symm
  | some key => rfl

theorem has_append (r : Reporter) (i : Issue) (id : String × String) :
    (r.append i.report).has id = true ↔ r.has id = true ∨ i.onceId? = some id := by
  unfold has Issue.onceId?
  rw [isSome_seen?, isSome_seen?, append]
  cases hkey : i.onceKey? with
  | none =>
    have hreport : i.report.onceKey? = none := by rw [Issue.report, hkey]; rfl
    rw [hreport]
    simp
  | some key =>
    have hreport : i.report.onceKey? = some (.str key) := by rw [Issue.report, hkey]; rfl
    have hcode : i.report.code = .str i.code := rfl
    rw [hreport, hcode]
    simp [Json.alike_str, Prod.ext_iff]

theorem has_add (r : Reporter) (i : Issue) (id : String × String) :
    (r.add i).has id = true ↔ r.has id = true ∨ i.onceId? = some id := by
  rw [add_eq]
  split
  · next h =>
    obtain ⟨id', hid', hhas⟩ := Option.any_eq_true .. |>.mp h
    constructor
    · exact Or.inl
    · rintro (h | hid)
      · exact h
      · rw [hid] at hid'
        obtain rfl := Option.some.inj hid'
        exact hhas
  · exact has_append r i id

/-! ## One issue after another -/

theorem addAll_cons (r : Reporter) (i : Issue) (is : List Issue) :
    r.addAll (i :: is) = (r.add i).addAll is := rfl

theorem addAll_append (r : Reporter) (is js : List Issue) :
    r.addAll (is ++ js) = (r.addAll is).addAll js := List.foldl_append

theorem mountId_addAll (r : Reporter) (is : List Issue) : (r.addAll is).mountId = r.mountId := by
  induction is generalizing r with
  | nil => rfl
  | cons i rest ih => rw [addAll_cons, ih, mountId_add]

theorem has_addAll (r : Reporter) (is : List Issue) (id : String × String) :
    (r.addAll is).has id = true ↔ r.has id = true ∨ id ∈ is.filterMap Issue.onceId? := by
  induction is generalizing r with
  | nil => simp [addAll]
  | cons i rest ih =>
    rw [addAll_cons, ih, has_add, or_assoc]
    refine or_congr_right ?_
    cases hid : i.onceId? with
    | none => simp [hid]
    | some id' => simp [hid, eq_comm]

/-- What is on record already is not noted again. -/
theorem addAll_of_has {r : Reporter} {is : List Issue}
    (h : ∀ i ∈ is, ∃ id, i.onceId? = some id ∧ r.has id = true) : r.addAll is = r := by
  induction is with
  | nil => rfl
  | cons i rest ih =>
    obtain ⟨⟨id, hid, hhas⟩, hrest⟩ := List.forall_mem_cons.mp h
    rw [addAll_cons, add_of_has hid hhas]
    exact ih hrest

theorem note_of_mountId {r r' : Reporter} (h : r'.mountId = r.mountId) (report : Report) :
    r'.note report = r.note report := by
  rw [note, h, note]

/-- Of issues that are all new, each is noted. -/
theorem diagnostics_addAll {r : Reporter} {is : List Issue}
    (hnew : ∀ id ∈ is.filterMap Issue.onceId?, r.has id = false)
    (hdistinct : (is.filterMap Issue.onceId?).Nodup) :
    (r.addAll is).diagnostics = r.diagnostics ++ is.map fun i => r.note i.report := by
  induction is generalizing r with
  | nil => exact (List.append_nil _).symm
  | cons i rest ih =>
    have hi : ∀ id, i.onceId? = some id → r.has id = false := by
      intro id hid
      exact hnew id (List.mem_filterMap.mpr ⟨i, List.mem_cons_self, hid⟩)
    have hsub : rest.filterMap Issue.onceId? ⊆ (i :: rest).filterMap Issue.onceId? :=
      fun id hid => by
        obtain ⟨j, hj, hjid⟩ := List.mem_filterMap.mp hid
        exact List.mem_filterMap.mpr ⟨j, List.mem_cons_of_mem _ hj, hjid⟩
    have hrest : (rest.filterMap Issue.onceId?).Nodup ∧
        ∀ id, i.onceId? = some id → id ∉ rest.filterMap Issue.onceId? := by
      cases hid : i.onceId? with
      | none =>
        rw [List.filterMap_cons_none hid] at hdistinct
        exact ⟨hdistinct, nofun⟩
      | some id =>
        rw [List.filterMap_cons_some hid, List.nodup_cons] at hdistinct
        refine ⟨hdistinct.2, fun id' hid' => ?_⟩
        obtain rfl := Option.some.inj hid'
        exact hdistinct.1
    have hnew' : ∀ id ∈ rest.filterMap Issue.onceId?, (r.add i).has id = false := by
      intro id hid
      rw [Bool.eq_false_iff, Ne, has_add, not_or]
      exact ⟨Bool.eq_false_iff.mp (hnew id (hsub hid)), fun hi => hrest.2 id hi hid⟩
    have hnotes : (fun j : Issue => (r.add i).note j.report) = fun j => r.note j.report :=
      funext fun j => note_of_mountId (mountId_add r i) j.report
    rw [addAll_cons, ih hnew' hrest.1, hnotes, add_of_new hi, List.map_cons]
    exact List.append_assoc r.diagnostics [r.note i.report] _

end Reporter

end AssistantUI
