import AssistantUI.Json.Basic
import AssistantUI.Number.Notation

/-!
# JSON text

Values are written in three formats that differ in line breaks, in what follows an
item and in whether characters beyond ASCII are escaped. The differences are the fields
of a `Json.Style`; one writer serves them all.
-/

namespace AssistantUI.Json

/-- The decisions of a JSON format. -/
structure Style where
  /-- The number of spaces by which each level is indented; on one line if there is none. -/
  indent : Option Nat
  /-- Are all characters outside the printable ASCII ones escaped? -/
  asciiOnly : Bool

namespace Style

/-- One line, a blank after each comma and colon, ASCII only. -/
def line : Style := ⟨none, true⟩

/-- One item a line, indented by two, ASCII only. -/
def block : Style := ⟨some 2, true⟩

/-- One item a line, indented by two, characters as they are. -/
def unicodeBlock : Style := ⟨some 2, false⟩

/-- What separates two levels: a line break and the indentation, or nothing. -/
def lineBreak (style : Style) (level : Nat) : String :=
  match style.indent with
  | none => ""
  | some n => String.ofList ('\n' :: List.replicate (n * level) ' ')

/-- What stands between two items. -/
def separator (style : Style) (level : Nat) : String :=
  if style.indent.isSome then "," ++ style.lineBreak level else ", "

end Style

/-- Four hexadecimal digits. -/
def hex4 (n : Nat) : List Char := Binary64.padLeft 4 (Nat.toDigits 16 n)

/-- The escape of a character by its sixteen-bit units. -/
def escapeUnits (c : Char) : List Char :=
  let n := c.toNat
  if n < 0x10000 then '\\' :: 'u' :: hex4 n
  else '\\' :: 'u' :: hex4 (0xD800 + (n - 0x10000) / 0x400) ++
    '\\' :: 'u' :: hex4 (0xDC00 + (n - 0x10000) % 0x400)

/-- How a character is written inside a JSON string. -/
def escapeChar (asciiOnly : Bool) (c : Char) : List Char :=
  if c = '"' then ['\\', '"']
  else if c = '\\' then ['\\', '\\']
  else if c = '\n' then ['\\', 'n']
  else if c = '\r' then ['\\', 'r']
  else if c = '\t' then ['\\', 't']
  else if c.toNat = 8 then ['\\', 'b']
  else if c.toNat = 12 then ['\\', 'f']
  else if c.toNat < 32 || (asciiOnly && c.toNat > 126) then escapeUnits c
  else [c]

/-- A JSON string. -/
def writeString (asciiOnly : Bool) (s : String) : String :=
  String.ofList ('"' :: s.toList.flatMap (escapeChar asciiOnly) ++ ['"'])

mutual

/-- The text of a value whose container is at the given level. -/
def writeAt (style : Style) (level : Nat) (j : Json) : String :=
  match j with
  | .null => "null"
  | .bool b => if b then "true" else "false"
  | .int n => toString n
  | .float x => x.toText .json
  | .str s => writeString style.asciiOnly s
  | .arr [] => "[]"
  | .arr (x :: xs) =>
    "[" ++ style.lineBreak (level + 1) ++ writeAt style (level + 1) x ++
      writeItems style (level + 1) xs ++ style.lineBreak level ++ "]"
  | .obj [] => "\x7b\x7d"
  | .obj ((k, x) :: ms) =>
    "\x7b" ++ style.lineBreak (level + 1) ++ writeString style.asciiOnly k ++ ": " ++
      writeAt style (level + 1) x ++ writeMembers style (level + 1) ms ++
      style.lineBreak level ++ "\x7d"

/-- The items after the first one, each behind its separator. -/
def writeItems (style : Style) (level : Nat) (items : List Json) : String :=
  match items with
  | [] => ""
  | x :: xs => style.separator level ++ writeAt style level x ++ writeItems style level xs

/-- The members after the first one, each behind its separator. -/
def writeMembers (style : Style) (level : Nat) (members : List (String × Json)) : String :=
  match members with
  | [] => ""
  | (k, x) :: ms =>
    style.separator level ++ writeString style.asciiOnly k ++ ": " ++ writeAt style level x ++
      writeMembers style level ms

end

/-- The text of a value in a format. -/
def write (style : Style) (j : Json) : String := writeAt style 0 j

example : write .line (.obj [("a", .arr [.int 1, .null])]) = "\x7b\"a\": [1, null]\x7d" := by
  decide +kernel

end AssistantUI.Json
