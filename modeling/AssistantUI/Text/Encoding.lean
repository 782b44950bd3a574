/-!
# Text from bytes

The body of a request is bytes. A mark at its start, or else the places of its zero
bytes, tell in which of the Unicode encodings it is written: a JSON text starts with two
ASCII characters, which pins down the width and the order of the units.
-/

namespace AssistantUI.Text

/-- The Unicode encodings, by width and order of their units. -/
inductive Encoding where
  | utf8
  | utf16 (bigEndian : Bool)
  | utf32 (bigEndian : Bool)
  deriving DecidableEq

namespace Encoding

/-- The encoding of a JSON text, and its bytes without a leading mark. -/
def detect : List UInt8 → Encoding × List UInt8
  | 0x00 :: 0x00 :: 0xFE :: 0xFF :: rest => (.utf32 true, rest)
  | 0xFF :: 0xFE :: 0x00 :: 0x00 :: rest => (.utf32 false, rest)
  | 0xFE :: 0xFF :: rest => (.utf16 true, rest)
  | 0xFF :: 0xFE :: rest => (.utf16 false, rest)
  | 0xEF :: 0xBB :: 0xBF :: rest => (.utf8, rest)
  | [a, b] =>
    (if a = 0 then .utf16 true else if b = 0 then .utf16 false else .utf8, [a, b])
  | a :: b :: c :: d :: rest =>
    (if a = 0 then (if b = 0 then .utf32 true else .utf16 true)
     else if b = 0 then (if c = 0 ∧ d = 0 then .utf32 false else .utf16 false)
     else .utf8, a :: b :: c :: d :: rest)
  | short => (.utf8, short)

/-- Two bytes as one unit. -/
def unit16 (bigEndian : Bool) (a b : UInt8) : Nat :=
  if bigEndian then a.toNat * 256 + b.toNat else b.toNat * 256 + a.toNat

/-- The code point as a character, if it is one. -/
def scalar? (n : Nat) : Option Char :=
  if n < 0xD800 ∨ (0xE000 ≤ n ∧ n < 0x110000) then some (Char.ofNat n) else none

/-- Characters from sixteen-bit units, the larger ones from two. -/
def decode16 (bigEndian : Bool) : List UInt8 → Option (List Char)
  | [] => some []
  | a :: b :: rest =>
    let n := unit16 bigEndian a b
    if 0xD800 ≤ n ∧ n < 0xDC00 then
      match rest with
      | c :: d :: rest =>
        let m := unit16 bigEndian c d
        if 0xDC00 ≤ m ∧ m < 0xE000 then
          (decode16 bigEndian rest).map
            (Char.ofNat (0x10000 + (n - 0xD800) * 0x400 + (m - 0xDC00)) :: ·)
        else none
      | _ => none
    else do
      let c ← scalar? n
      return c :: (← decode16 bigEndian rest)
  | _ => none

/-- Characters from units of four bytes. -/
def decode32 (bigEndian : Bool) : List UInt8 → Option (List Char)
  | [] => some []
  | a :: b :: c :: d :: rest => do
    let high := unit16 bigEndian a b
    let low := unit16 bigEndian c d
    let c ← scalar? (if bigEndian then high * 0x10000 + low else low * 0x10000 + high)
    return c :: (← decode32 bigEndian rest)
  | _ => none

/-- The text that the bytes stand for in an encoding. -/
def decode? (bytes : List UInt8) : Encoding → Option String
  | .utf8 => String.fromUTF8? ⟨bytes.toArray⟩
  | .utf16 bigEndian => (decode16 bigEndian bytes).map String.ofList
  | .utf32 bigEndian => (decode32 bigEndian bytes).map String.ofList

end Encoding

/-- The text of a JSON body, in whichever Unicode encoding it is written. -/
def ofBytes? (bytes : List UInt8) : Option String :=
  let (encoding, rest) := Encoding.detect bytes
  encoding.decode? rest

end AssistantUI.Text
