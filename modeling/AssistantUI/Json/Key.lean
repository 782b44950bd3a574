import AssistantUI.Json.Display
import AssistantUI.Json.Writer

/-!
# Keys

The state of a definition, and whatever else is looked up by a value that came from
outside, is kept under keys. A key is a text as a rule, but any value that is no list and
no object can be one. Keys are compared as values are: `1`, `1.0` and `true` are three
spellings of one key, and the text `1` is another key. In a sentence, each is shown as
it is spelled; in JSON text, where a name is a text, each is named by how JSON spells it.
-/

namespace AssistantUI

/-- A value under which something can be kept. -/
inductive Key where
  | text (s : String)
  | null
  | bool (b : Bool)
  | int (n : Int)
  | float (x : Binary64)
  deriving DecidableEq, Inhabited

namespace Key

/-- What is left of a key when its spelling is left out. -/
inductive Identity where
  | text (s : String)
  | null
  | whole (n : Int)
  /-- A number that is not whole, by its bits. -/
  | real (bits : UInt64)
  deriving DecidableEq

/-- What a key is compared by. -/
def identity : Key → Identity
  | text s => .text s
  | null => .null
  | bool b => .whole (if b then 1 else 0)
  | int n => .whole n
  | float x => match x.toInt? with
    | some n => .whole n
    | none => .real x.bits

instance : BEq Key := ⟨fun j k => decide (j.identity = k.identity)⟩

theorem beq_iff {j k : Key} : (j == k) = true ↔ j.identity = k.identity := decide_eq_true_iff

instance : EquivBEq Key where
  rfl := beq_iff.mpr rfl
  symm h := beq_iff.mpr (beq_iff.mp h).symm
  trans h h' := beq_iff.mpr ((beq_iff.mp h).trans (beq_iff.mp h'))

@[simp] theorem text_beq_text (s t : String) : (text s == text t) = (s == t) := by
  rw [Bool.eq_iff_iff, beq_iff, beq_iff_eq]
  simp [identity]

/-- The key as a value. -/
def toJson : Key → Json
  | text s => .str s
  | null => .null
  | bool b => .bool b
  | int n => .int n
  | float x => .float x

/-- The key inside a sentence. -/
def display (k : Key) : String := k.toJson.display

/-- The literal notation of a key. -/
def literal (k : Key) : String := k.toJson.literal

/-- The name of a key in JSON text: a text names itself, and any other key is spelled out. -/
def memberName : Key → String
  | text s => s
  | k => k.toJson.write .line

example : (int 1 == float (.ofDecimal false 10 (-1))) = true ∧ (bool true == int 1) = true
    ∧ (int 1 == text "1") = false ∧ (float (.ofDecimal true 0 0) == int 0) = true := by
  decide +kernel

end Key

end AssistantUI
