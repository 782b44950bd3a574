/-!
# Hexadecimal digits

Characters and bytes are named by hexadecimal digits where they cannot stand themselves.
-/

namespace AssistantUI.Text

/-- The value of a hexadecimal digit. -/
def hexValue? (c : Char) : Option Nat :=
  if '0' ≤ c ∧ c ≤ '9' then some (c.toNat - 48)
  else if 'a' ≤ c ∧ c ≤ 'f' then some (c.toNat - 87)
  else if 'A' ≤ c ∧ c ≤ 'F' then some (c.toNat - 55)
  else none

/-- Is this a hexadecimal digit? -/
def isHexDigit (c : Char) : Bool := (hexValue? c).isSome

/-- The bytes that pairs of hexadecimal digits name. -/
def bytesOfHex? : List Char → Option (List UInt8)
  | [] => some []
  | a :: b :: rest => do
    return UInt8.ofNat ((← hexValue? a) * 16 + (← hexValue? b)) :: (← bytesOfHex? rest)
  | _ => none

/-- The two digits of a byte, letters in upper case. -/
def hexOfByte (b : UInt8) : List Char :=
  let digit (n : Nat) := if n < 10 then Char.ofNat (48 + n) else Char.ofNat (55 + n)
  [digit (b.toNat / 16), digit (b.toNat % 16)]

example : bytesOfHex? ['0', 'f', 'A', '0'] = some [15, 160] ∧ hexOfByte 175 = ['A', 'F'] := by
  decide

end AssistantUI.Text
