import AssistantUI.Text.Runs

/-!
# Blank characters

Blank are the separators of words, lines and paragraphs of any script and the control
characters that act as such.
-/

namespace AssistantUI.Text

/-- Blank characters, as run lengths from code point 0. -/
def blankRuns : List Nat :=
  [9, 5, 14, 5, 100, 1, 26, 1, 5599, 1, 2431, 11, 29, 2, 5, 1, 47, 1, 4000, 1]

/-- Is the character blank? -/
def isBlank (c : Char) : Bool := Runs.contains blankRuns c

/-- A text without the blanks at its start. -/
def trimStart (s : String) : String := String.ofList (s.toList.dropWhile isBlank)

/-- A list of characters without those at its two ends that satisfy a test. -/
def trimWhere (p : Char → Bool) (s : List Char) : List Char :=
  ((s.dropWhile p).reverse.dropWhile p).reverse

end AssistantUI.Text
