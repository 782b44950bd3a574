import AssistantUI.Definition.Parser

/-!
# Values whose objects bind no key twice

An object of a value is a list of members, and the type does not say that their keys
differ. Every object that comes from outside does have different keys, at any depth, and
some statements about reading need it: two members under one key would be looked at twice
while only one of them is kept.
-/

namespace AssistantUI

namespace Json

mutual

/-- Does no object in the value, at any depth, bind a key twice? -/
def hasDistinctKeys (j : Json) : Bool :=
  match j with
  | .arr items => haveDistinctKeys items
  | .obj members => decide (members.map Prod.fst).Nodup && membersHaveDistinctKeys members
  | _ => true

/-- Does no object in the items of a list bind a key twice? -/
def haveDistinctKeys (items : List Json) : Bool :=
  match items with
  | [] => true
  | j :: rest => hasDistinctKeys j && haveDistinctKeys rest

/-- Does no object in the values of the members bind a key twice? -/
def membersHaveDistinctKeys (members : List (String × Json)) : Bool :=
  match members with
  | [] => true
  | (_, j) :: rest => hasDistinctKeys j && membersHaveDistinctKeys rest

end

@[simp] theorem hasDistinctKeys_obj {members : List (String × Json)} :
    (obj members).hasDistinctKeys = true ↔
      (members.map Prod.fst).Nodup ∧ membersHaveDistinctKeys members = true := by
  simp [hasDistinctKeys]

@[simp] theorem haveDistinctKeys_cons {j : Json} {rest : List Json} :
    haveDistinctKeys (j :: rest) = true ↔
      j.hasDistinctKeys = true ∧ haveDistinctKeys rest = true := by
  simp [haveDistinctKeys]

@[simp] theorem membersHaveDistinctKeys_cons {e : String × Json} {rest : List (String × Json)} :
    membersHaveDistinctKeys (e :: rest) = true ↔
      e.2.hasDistinctKeys = true ∧ membersHaveDistinctKeys rest = true := by
  simp [membersHaveDistinctKeys]

/-- Whatever an object holds under a key has distinct keys too. -/
theorem hasDistinctKeys_member {members : List (String × Json)}
    (h : membersHaveDistinctKeys members = true) (k : String) :
    (member members k).hasDistinctKeys = true := by
  unfold member
  induction members with
  | nil => rfl
  | cons e rest ih =>
    obtain ⟨he, hrest⟩ := membersHaveDistinctKeys_cons.mp h
    rw [Dict.find]
    split
    · exact he
    · exact ih hrest

/-- The names of the members under a key differ, where there are members under it. -/
theorem nodup_membersOrNone {j : Json} (h : j.hasDistinctKeys = true) :
    (j.membersOrNone.map Prod.fst).Nodup := by
  cases j with
  | obj members => exact (hasDistinctKeys_obj.mp h).1
  | _ => exact List.nodup_nil

end Json

end AssistantUI
