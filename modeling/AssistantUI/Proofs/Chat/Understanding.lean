import AssistantUI.Chat.Basic
import AssistantUI.Proofs.Dict

/-!
# What a chat understands

A tree tells the host of its state inside an object, among whatever data its author wished to send
along, and a flat form tells of the state itself. A chat undoes that difference by looking at what
is present (`Chat.submitted`). If that is the definition whose handler tells, then the chat gets the
state as it is, whatever else is told (`Chat.Understands`), and what it makes of it is always the
same.
-/

namespace AssistantUI

/-! ## The state inside a payload -/

theorem State.map_payload (s : State) : s.payload.map Told.toJson = s := by
  refine Dict.ext ?_
  rw [payload, Dict.entries_map, Dict.entries_map, List.map_map]
  exact List.map_id _

/-- The state is told in place of any other data of that name. -/
theorem EventDescriptor.toJson_payload (d : EventDescriptor) (state : State) :
    (d.payload state).toJson = .ofDict ((d.data.getD ∅).insert "state" state.toJson) := by
  rw [Payload.toJson, payload, Dict.map_insert, State.map_payload, ← State.toJson_ofTexts]
  refine congrArg State.toJson (Dict.ext ?_)
  exact (Dict.map_write Key.text_beq_text "state" state.toJson (d.data.getD ∅).entries).symm

namespace Chat

open Session

/-- The chat with a message of the user about what was submitted. -/
def withSubmission (c : Chat) (names : Names) (text : String) : Chat :=
  { c with
    messages := c.messages ++
      [⟨c.made, .str (names.message c.made), .str text, .user, some .sent, .null⟩]
    made := c.made + 1 }

/-- What the chat makes of a submission of a mounted definition, whose host is told `payload`. -/
def Understands (d : Definition) (payload : State → Payload) : Prop :=
  ∀ (s : Session Chat) (m : Mount) (values : State), s.currentMount = some m →
    m.definition = some d → submitted s (payload values).toJson = .ok values.toJson

theorem understands_described (root : Node) (d : EventDescriptor) :
    Understands (.tree root) d.payload := by
  intro s m values hcurrent hdefinition
  have hshape : s.currentMount.bind Mount.definition = some (.tree root) := by
    rw [hcurrent]
    exact hdefinition
  unfold submitted
  rw [hshape, d.toJson_payload]
  have hstate : Dict.find "state" ((d.data.getD ∅).insert "state" values.toJson).entries =
    some values.toJson := Dict.get?_insert_self ..
  show Except.ok ((Dict.find "state" _).getD _) = _
  rw [hstate]
  rfl

theorem understands_flat (type : String) (members : List (String × Json)) :
    Understands (.flat type members) State.payload := by
  intro s m values hcurrent hdefinition
  have hshape : s.currentMount.bind Mount.definition = some (.flat type members) := by
    rw [hcurrent]
    exact hdefinition
  unfold submitted
  rw [hshape, Payload.toJson, State.map_payload]

/-! ## The code of the chat -/

section

variable (names : Names) (onChange : Nat → Nat → State → Session Chat → Code Chat)

/-- The session in which a submission is among the messages. -/
def heardSubmission (data : Json) (s : Session Chat) : Session Chat :=
  remember (fun c => c.withSubmission names (submissionText data)) s

variable {names}

/-- A submission that the chat understands adds one message, and what is present is taken down. -/
theorem runIn_onEvent_submit {s : Session Chat} {payload data : Json}
    (h : submitted s payload = .ok data) (depth : Nat) :
    ((onEvent names submitEvent payload s).run
        (perform (hostWith names onChange) (depth + 1))).runIn s =
      (.ok (), (heardSubmission names data s).unmount) := by
  unfold onEvent
  rw [if_pos rfl, h]
  rfl

end

end Chat

end AssistantUI
