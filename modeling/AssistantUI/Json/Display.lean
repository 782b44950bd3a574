import AssistantUI.Json.Basic
import AssistantUI.Number.Notation
import AssistantUI.Text.Printable

/-!
# Values in running text

Where a value is shown inside a sentence, a text stands for itself and everything else
is written in a literal notation: `None`, `True` and `False` for the three words, single
quotes around texts, and brackets around what is inside a container. In quotes, what
cannot be printed is escaped.
-/

namespace AssistantUI.Json

/-- Texts are put between single quotes, unless they hold one and no double quote. -/
def quoteFor (s : List Char) : Char :=
  if s.contains '\'' && !s.contains '"' then '"' else '\''

/-- How a character is written between the given quotes. -/
def literalChar (quote : Char) (c : Char) : List Char :=
  let n := c.toNat
  let hex (width : Nat) := Binary64.padLeft width (Nat.toDigits 16 n)
  if c = quote || c = '\\' then ['\\', c]
  else if c = '\n' then ['\\', 'n']
  else if c = '\r' then ['\\', 'r']
  else if c = '\t' then ['\\', 't']
  else if Text.isPrintable c then [c]
  else if n < 0x100 then '\\' :: 'x' :: hex 2
  else if n < 0x10000 then '\\' :: 'u' :: hex 4
  else '\\' :: 'U' :: hex 8

/-- A text between quotes. -/
def quoted (s : String) : String :=
  let q := quoteFor s.toList
  String.ofList (q :: s.toList.flatMap (literalChar q) ++ [q])

mutual

/-- The literal notation of a value. -/
def literal (j : Json) : String :=
  match j with
  | .null => "None"
  | .bool b => if b then "True" else "False"
  | .int n => toString n
  | .float x => x.toText .plain
  | .str s => quoted s
  | .arr [] => "[]"
  | .arr (x :: xs) => "[" ++ literal x ++ literalItems xs ++ "]"
  | .obj [] => "\x7b\x7d"
  | .obj ((k, x) :: ms) =>
    "\x7b" ++ quoted k ++ ": " ++ literal x ++ literalMembers ms ++ "\x7d"

/-- The items after the first one. -/
def literalItems (items : List Json) : String :=
  match items with
  | [] => ""
  | x :: xs => ", " ++ literal x ++ literalItems xs

/-- The members after the first one. -/
def literalMembers (members : List (String × Json)) : String :=
  match members with
  | [] => ""
  | (k, x) :: ms => ", " ++ quoted k ++ ": " ++ literal x ++ literalMembers ms

end

/-- A value inside a sentence: a text as it is, anything else in literal notation. -/
def display : Json → String
  | .str s => s
  | j => literal j

example : literal (.arr [.str "it's", .null]) = "[\"it's\", None]" := by decide +kernel

end AssistantUI.Json
