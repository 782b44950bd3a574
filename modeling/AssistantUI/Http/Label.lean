import AssistantUI.Text.LabelChar
import AssistantUI.Text.Punycode
import AssistantUI.Text.Word

/-!
# Names of hosts in any script

A host name is a row of labels with dots between them. One with other characters than ASCII
is written label by label in letters, digits and hyphens, if every label is one that may be
registered: it holds only characters of labels, each in a place where it can stand, and can
be read in one direction. Characters with marks are taken as they are given, whether or not
there is one character for both; and so are labels that are written like this already.
-/

namespace AssistantUI.Http.Label

open Text

/-- Is the code point of the character in one of the ranges? -/
def isWithin (ranges : List (Nat × Nat)) (c : Char) : Bool :=
  ranges.any fun r => r.1 ≤ c.toNat && c.toNat ≤ r.2

/-- Is this one of the dots that stand between labels? -/
def isDot (c : Char) : Bool := ['.', '\u3002', '\uff0e', '\uff61'].contains c

/-- Is this a mark, which belongs to the character before it? -/
def isMark (c : Char) : Bool :=
  isLabelChar c && !isWordChar c && !(['-', '\u06fd', '\u06fe', '\u0f0b'].contains c)

/-! ## Characters that fit some places only -/

def isGreek : Char → Bool := isWithin [(0x370, 0x3e1), (0x3f0, 0x3ff), (0x1f00, 0x1fff)]

def isHebrew : Char → Bool := isWithin [(0x591, 0x5f4)]

/-- Is this a character of Chinese or of one of the two alphabets of Japanese? -/
def isJapanese : Char → Bool :=
  isWithin [(0x3005, 0x3005), (0x3007, 0x3007), (0x3021, 0x3029), (0x3038, 0x303b),
    (0x3041, 0x3096), (0x309d, 0x309f), (0x30a1, 0x30fa), (0x30fd, 0x30ff), (0x31f0, 0x31ff),
    (0x3400, 0x4dbf), (0x4e00, 0x9fff), (0x1b000, 0x1b167), (0x20000, 0x323af)]

def isArabicDigit : Char → Bool := isWithin [(0x660, 0x669)]

def isPersianDigit : Char → Bool := isWithin [(0x6f0, 0x6f9)]

/-- Would the characters next to this place, marks aside, be joined if nothing stood in it? -/
def isJoint (before after : List Char) : Bool :=
  (before.find? fun c => !isMark c).any joinsNext &&
    (after.find? fun c => !isMark c).any joinsPrevious

/-- Can the character stand between what is before it, the last one first, and what is after? -/
def fits (before : List Char) (c : Char) (after : List Char) : Bool :=
  if c = '\u00b7' then before.head? = some 'l' && after.head? = some 'l'
  else if c = '\u0375' then after.head?.any isGreek
  else if c = '\u05f3' || c = '\u05f4' then before.head?.any isHebrew
  else if c = '\u30fb' then (before ++ after).any isJapanese
  else if c = '\u200c' then before.head?.any isVirama || isJoint before after
  else if c = '\u200d' then before.head?.any isVirama
  else if isArabicDigit c then !(before ++ after).any isPersianDigit
  else if isPersianDigit c then !(before ++ after).any isArabicDigit
  else isLabelChar c

/-- Can all these characters stand where they do? -/
def allFit (before : List Char) : List Char → Bool
  | [] => true
  | c :: after => fits before c after && allFit (c :: before) after

/-! ## Directions -/

/-- Which way a character is read. -/
inductive Direction where
  | forward
  | backward
  | digit
  /-- A digit of those that stand in backward texts only. -/
  | arabicDigit
  | neutral
  /-- The way of the character before it. -/
  | mark
  deriving DecidableEq

/-- The direction of a character of labels. -/
def direction (c : Char) : Direction :=
  if ['-', '\u200c', '\u200d'].contains c then .neutral
  else if isMark c then .mark
  else if c.isDigit || isPersianDigit c then .digit
  else if isArabicDigit c || isWithin [(0x10d30, 0x10d39)] c then .arabicDigit
  else if isWithin [(0x590, 0x8ff), (0xfb1d, 0xfdff), (0xfe70, 0xfeff), (0x10800, 0x10fff),
    (0x1e800, 0x1efff)] c then .backward
  else .forward

/--
Can the label be read in one direction? One that is not read forward as a whole starts
backward, has nothing that is read forward, one kind of digits, and a letter or a digit at
its end.
-/
def isOneWay (s : List Char) : Bool :=
  let ways := s.map direction
  if ways.contains .backward || ways.contains .arabicDigit then
    ways.head? = some .backward && !ways.contains .forward &&
      !(ways.contains .digit && ways.contains .arabicDigit) &&
      (ways.reverse.find? (· != .mark)).any (· != .neutral)
  else true

/-! ## Labels and names -/

/-- What a label starts with that is written in letters and digits. -/
def writtenSign : List Char := ['x', 'n', '-', '-']

/-- Do hyphens stand where they cannot, at an end or at the two places of the sign? -/
def hasStrayHyphen (s : List Char) : Bool :=
  s.head? = some '-' || s.getLast? = some '-' || (s.drop 2).take 2 = ['-', '-']

/-- Is this a label that may be registered? -/
def isRegular (s : List Char) : Bool :=
  !s.isEmpty && !hasStrayHyphen s && !s.head?.any isMark && allFit [] s && isOneWay s

/-- Is this a label that is written in letters and digits already? -/
def isWritten (s : List Char) : Bool :=
  writtenSign.isPrefixOf s && s.length > 4 && s.getLast? != some '-' && s.all isLabelChar

/-- A label as it is written. -/
def write? (s : List Char) : Option (List Char) :=
  let ascii := s.all fun c => c.toNat < 128
  let written := if ascii then s else writtenSign ++ Punycode.encode s
  if (isRegular s || (ascii && isWritten s)) && written.length ≤ 63 then some written else none

/-- A name as it is written, label by label. It may end in a dot. -/
def writeName? (s : List Char) : Option (List Char) := do
  let labels := s.splitOnP isDot
  let closed := labels.getLast? = some []
  let written ← (if closed then labels.dropLast else labels).mapM write?
  let name := ['.'].intercalate (written ++ if closed then [[]] else [])
  if name.length ≤ (if closed then 254 else 253) then some name else none

example : writeName? "中国.icom.museum".toList = some "xn--fiqs8s.icom.museum".toList := by
  decide +kernel
example : (writeName? "-é".toList).isNone ∧ (writeName? "é..x".toList).isNone ∧
    (writeName? "aב".toList).isNone := by decide +kernel

end AssistantUI.Http.Label
