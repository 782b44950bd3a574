import AssistantUI.Http.Label
import AssistantUI.Text.Casing
import AssistantUI.Text.Hexadecimal
import AssistantUI.Text.Percent

/-!
# Names of hosts

A host is named by four numbers with dots, by groups of hexadecimal digits with colons
inside square brackets, or by words. The first two have to be well formed. Of words the
case is left out, and those in other scripts are written in letters and digits.
-/

namespace AssistantUI.Http.HostName

/-! ## Four numbers -/

/-- Is this one of the four numbers? It has no zero in front and is below 256. -/
def isOctet (s : List Char) : Bool :=
  !s.isEmpty && s.all Char.isDigit && s.length ≤ 3 && (s.length == 1 || s.head? != some '0') &&
    s.foldl (fun n c => n * 10 + (c.toNat - 48)) 0 ≤ 255

/-- Is this a name of four numbers? -/
def isQuad (s : List Char) : Bool :=
  let parts := s.splitOn '.'
  parts.length == 4 && parts.all isOctet

/--
The places that reading four rows of digits, with any one character between two of them, can
have come to: the number of the row, and whether it has begun.
-/
def quadLikePlaces (s : List Char) : List (Nat × Bool) :=
  s.foldl (fun places c =>
    ((if c.isDigit then places.map fun p => (p.1, true) else []) ++
      (places.filter fun p => p.2 && p.1 < 3).map fun p => (p.1 + 1, false)).eraseDups)
    [(0, false)]

/-- Does a name look as if four numbers were meant, whatever stands between them? -/
def isQuadLike (s : List Char) : Bool := (quadLikePlaces s).contains (3, true)

/-! ## Groups of hexadecimal digits -/

/-- Is this one of the groups? -/
def isGroup (s : List Char) : Bool := !s.isEmpty && s.all Text.isHexDigit && s.length ≤ 4

/-- The groups of a name; four numbers at its end stand for the last two. -/
def groups? (s : List Char) : Option (List (List Char)) :=
  let parts := s.splitOn ':'
  if parts.length < 3 then none
  else
    let last := parts.getLastD []
    if last.contains '.' then
      if isQuad last then some (parts.dropLast ++ [['0'], ['0']]) else none
    else some parts

/-- The groups before and after a gap; an empty part at an end next to the gap belongs to it. -/
def aroundGap? (parts : List (List Char)) : Option (List (List Char) × List (List Char)) :=
  let closed (front rest : List (List Char)) :=
    if rest = [] then none else some (front, if rest = [[]] then [] else rest)
  match parts with
  | [] :: [] :: rest => closed [] rest
  | parts =>
    let front := parts.takeWhile fun p => !p.isEmpty
    if front = [] then none else closed front (parts.drop (front.length + 1))

/-- Are these eight groups, or less with one gap in place of those that are left out? -/
def areGroups (parts : List (List Char)) : Bool :=
  if parts.all isGroup then parts.length == 8
  else match aroundGap? parts with
    | some (front, back) => front.length + back.length < 8 && (front ++ back).all isGroup
    | none => false

/-- Is this a name of groups, without its brackets? It may end in a zone. -/
def isGrouped (s : List Char) : Bool :=
  let name := s.takeWhile (· != '%')
  let zone := s.dropWhile (· != '%')
  (zone.isEmpty || (zone.length > 1 && !(zone.drop 1).contains '%')) &&
    (match groups? name with | some parts => areGroups parts | none => false)

/-! ## All names -/

/-- The characters that can stand in a word themselves. -/
def isWordChar (c : Char) : Bool :=
  c.isAlphanum || ['-', '.', '_', '~', '!', '$', '&', '\'', '(', ')', '*', '+', ',', ';', '=', '"',
    '`', '\x7b', '\x7d', '%', '|', '\\'].contains c

/-- The name that is meant, as it is written; a name of groups is given without its brackets. -/
def ofText? (s : List Char) : Option (List Char) :=
  if s.isEmpty then some []
  else if isQuadLike s then if isQuad s then some s else none
  else if s.head? = some '[' ∧ s.getLast? = some ']' then
    let inner := s.drop 1 |>.dropLast
    if isGrouped inner then some inner else none
  else if s.all fun c => c.toNat < 128 then
    some (Text.percentEncode isWordChar (s.map Char.toLower))
  else Label.writeName? (Text.lower (String.ofList s)).toList

end AssistantUI.Http.HostName
