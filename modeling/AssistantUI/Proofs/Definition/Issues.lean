import AssistantUI.Proofs.Definition.Reading
import AssistantUI.Proofs.Reporter

/-!
# Issues of reading

Whatever is read, the issues that are met are about the shape of a value: an event, a node or a
definition of the wrong kind, or something that lies too deep. None of them carries a key, so a
reporter notes each one, however often reading meets the like of it.
-/

namespace AssistantUI

/-- Is the issue one about the shape of what is read? -/
def Issue.isOfReading : Issue → Bool
  | bindingMissing .. | tagUnknown .. | archetypeUnknown _ | callbackUnknown _ | handlerRaised .. =>
    false
  | _ => true

theorem Issue.onceId?_of_isOfReading {i : Issue} (h : i.isOfReading = true) : i.onceId? = none := by
  cases i with
  | bindingMissing | tagUnknown => cases h
  | _ => rfl

/-- Is the issue one about an event? -/
def Issue.isOfEvent (i : Issue) : Bool := i.code == "event.descriptor"

theorem Issue.isOfReading_of_isOfEvent {i : Issue} (h : i.isOfEvent = true) :
    i.isOfReading = true := by
  cases i with
  | bindingMissing | tagUnknown | archetypeUnknown | callbackUnknown | handlerRaised =>
    exact absurd h (by simp [isOfEvent, code])
  | _ => rfl

namespace Parse

variable {α β : Type}

/-- All issues that are met, if nothing fails, have a property. -/
def Meets (P : Issue → Bool) (p : Parse α) : Prop :=
  ∀ a is, p = .ok (a, is) → ∀ i ∈ is, P i = true

namespace Meets

variable {P Q : Issue → Bool}

theorem mono {p : Parse α} (h : Meets P p) (hPQ : ∀ {i}, P i = true → Q i = true) : Meets Q p :=
  fun a is hp i hi => hPQ (h a is hp i hi)

theorem pure (a : α) : Meets P (Pure.pure a) := by
  intro b is h
  obtain ⟨-, rfl⟩ := of_pure_ok h
  exact List.forall_mem_nil _

theorem fail (f : Fault) : Meets P (Parse.fail f : Parse α) := nofun

theorem bind {p : Parse α} {f : α → Parse β} (hp : Meets P p) (hf : ∀ a, Meets P (f a)) :
    Meets P (p >>= f) := by
  intro b ks h i hi
  obtain ⟨a, is, js, h₁, h₂, rfl⟩ := of_bind_ok h
  rcases List.mem_append.mp hi with hi | hi
  · exact hp a is h₁ i hi
  · exact hf a b js h₂ i hi

theorem report {i : Issue} (h : P i = true) : Meets P (Parse.report i) := by
  intro a is heq j hj
  obtain ⟨-, rfl⟩ := Prod.mk.inj (Except.ok.inj heq)
  rw [List.mem_singleton.mp hj]
  exact h

/-- A part that is left out, with an issue. -/
theorem leftOut {i : Issue} (h : P i = true) (a : α) :
    Meets P (Parse.report i >>= fun _ => Pure.pure a) := (report h).bind fun _ => pure a

end Meets

/-- All issues that are met, if nothing fails, are issues of reading. -/
def OfReading (p : Parse α) : Prop :=
  ∀ a is, p = .ok (a, is) → ∀ i ∈ is, i.isOfReading = true

namespace OfReading

theorem pure (a : α) : OfReading (Pure.pure a) := Meets.pure a

theorem bind {p : Parse α} {f : α → Parse β} (hp : OfReading p) (hf : ∀ a, OfReading (f a)) :
    OfReading (p >>= f) := Meets.bind hp hf

theorem leftOut {i : Issue} (h : i.isOfReading = true) (a : α) :
    OfReading (Parse.report i >>= fun _ => Pure.pure a) := Meets.leftOut h a

end OfReading

end Parse

open Parse (Meets OfReading)

/-! ## Events -/

namespace EventDescriptor

theorem meets_parseAction (pos : Position) (j : Json) :
    Meets Issue.isOfEvent (parseAction pos j) := by
  unfold parseAction
  split
  · exact .pure _
  · dsimp only
    split
    · exact .pure _
    · exact .leftOut rfl _
  · exact .leftOut rfl _

theorem meets_parseUpdates (pos : Position) (j : Json) :
    Meets Issue.isOfEvent (parseUpdates pos j) := by
  unfold parseUpdates
  split
  · exact .pure _
  · split
    · exact .pure _
    · exact .fail _
  · exact .leftOut rfl _

theorem meets_parseEmits (pos : Position) (j : Json) :
    Meets Issue.isOfEvent (parseEmits pos j) := by
  unfold parseEmits
  split
  · exact .pure _
  · exact .pure _
  · exact .leftOut rfl _

theorem meets_parseData (pos : Position) (j : Json) : Meets Issue.isOfEvent (parseData pos j) := by
  unfold parseData
  split
  · exact .pure _
  · exact .pure _
  · exact .leftOut rfl _

theorem meets_parse (pos : Position) (j : Json) : Meets Issue.isOfEvent (parse pos j) := by
  unfold parse
  split
  · exact (meets_parseAction pos _).bind fun _ => (meets_parseUpdates pos _).bind fun _ =>
      (meets_parseEmits pos _).bind fun _ => (meets_parseData pos _).bind fun _ => .pure _
  · exact .leftOut rfl _

theorem meets_parseEvents (base : Position) (members : List (String × Json)) :
    Meets Issue.isOfEvent (parseEvents base members) := by
  induction members with
  | nil => exact .pure _
  | cons m rest ih =>
    obtain ⟨name, j⟩ := m
    exact (meets_parse _ j).bind fun d => ih.bind fun ds => .pure _

end EventDescriptor

/-! ## Nodes and contents -/

theorem Node.ofReading_parseWith (pos : Position) (members : List (String × Json))
    {children : Parse Content} (h : OfReading children) :
    OfReading (Node.parseWith pos members children) := by
  have htype : OfReading (Node.parseType pos (Json.member members "type")) := by
    unfold Node.parseType
    split
    · exact .pure _
    · exact .leftOut rfl _
  have hevents : OfReading (EventDescriptor.parseEvents pos
      (Json.member members "events").membersOrNone) :=
    (EventDescriptor.meets_parseEvents pos _).mono Issue.isOfReading_of_isOfEvent
  exact htype.bind fun _ => hevents.bind fun _ => h.bind fun _ => .pure _

mutual

theorem Content.ofReading_parse (raw : Json) (depth : Int) (pos : Position) :
    OfReading (Content.parse depth pos raw) := by
  match raw with
  | .null | .bool _ | .str _ | .int _ | .float _ => exact .pure _
  | .obj members =>
    rw [Content.parse]
    split
    · exact .leftOut rfl _
    · exact (Node.ofReading_parseWith pos members
        (Content.ofReading_parseChildren members (depth + 1) pos)).bind fun _ => .pure _
  | .arr items =>
    rw [Content.parse]
    split
    · exact .leftOut rfl _
    · exact (Content.ofReading_parseItems items (depth + 1) pos 0).bind fun _ => .pure _

theorem Content.ofReading_parseChildren (members : List (String × Json)) (depth : Int)
    (pos : Position) : OfReading (Content.parseChildren depth pos members) := by
  match members with
  | [] => exact .pure _
  | (k, j) :: rest =>
    rw [Content.parseChildren]
    split
    · exact Content.ofReading_parse j depth pos
    · exact Content.ofReading_parseChildren rest depth pos

theorem Content.ofReading_parseItems (items : List Json) (depth : Int) (pos : Position) (i : Nat) :
    OfReading (Content.parseItems depth pos i items) := by
  match items with
  | [] => exact .pure _
  | j :: rest =>
    rw [Content.parseItems]
    exact (Content.ofReading_parse j depth (pos.item i)).bind fun _ =>
      (Content.ofReading_parseItems rest depth pos (i + 1)).bind fun _ => .pure _

end

/-- **Reading a definition meets issues of reading only.** -/
theorem Definition.ofReading_parse (raw : Json) : OfReading (Definition.parse raw) := by
  unfold Definition.parse
  split
  · exact .pure _
  · split
    · split
      · rename_i members _
        exact (Node.ofReading_parseWith "" members
          (Content.ofReading_parseChildren members 0 "")).bind fun _ => .pure _
      · exact .leftOut rfl _
    · split
      · exact .pure _
      · exact .leftOut rfl _
  · exact .leftOut rfl _

end AssistantUI
