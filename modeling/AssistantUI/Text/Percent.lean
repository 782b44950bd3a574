import AssistantUI.Text.Hexadecimal

/-!
# Percent signs in addresses

An address is written in a part of ASCII. Any other character in it is written as its bytes,
each as a percent sign and two hexadecimal digits. Which characters can stand themselves
depends on the part of the address. The percent sign always can, so that what is written
already stays as it is.
-/

namespace AssistantUI.Text

/-- A character as its bytes. -/
def percentBytes (c : Char) : List Char :=
  (String.singleton c).toUTF8.toList.flatMap fun b => '%' :: hexOfByte b

/-- A text in which the characters that cannot stand themselves are written as their bytes. -/
def percentEncode (safe : Char → Bool) (s : List Char) : List Char :=
  s.flatMap fun c => if safe c then [c] else percentBytes c

/-- The bytes of a text, where those that are written with a percent sign count as themselves. -/
def percentDecodeBytes : List Char → List UInt8
  | '%' :: a :: b :: rest =>
    match bytesOfHex? [a, b] with
    | some bytes => bytes ++ percentDecodeBytes rest
    | none => 37 :: percentDecodeBytes (a :: b :: rest)
  | c :: rest => (String.singleton c).toUTF8.toList ++ percentDecodeBytes rest
  | [] => []

/-- The text that is meant, if the bytes make one. -/
def percentDecode? (s : List Char) : Option String :=
  String.fromUTF8? ⟨(percentDecodeBytes s).toArray⟩

end AssistantUI.Text
