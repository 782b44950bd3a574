/-!
# Tags

The closed table of what a platform can show. A node whose type is none of these is
shown as a marked box.
-/

namespace AssistantUI

/-- An element that a platform knows. -/
inductive Tag where
  | div | span | p | pre | h1 | h2 | h3 | h4 | h5 | h6 | button | input | textarea | select | option
  | a | img | ul | ol | li | table | thead | tbody | tr | th | td | form | label | fieldset | legend
  deriving DecidableEq, Inhabited

namespace Tag

/-- The name of a tag in definitions and in what is rendered. -/
def name : Tag → String
  | div => "div" | span => "span" | p => "p" | pre => "pre"
  | h1 => "h1" | h2 => "h2" | h3 => "h3" | h4 => "h4" | h5 => "h5" | h6 => "h6"
  | button => "button" | input => "input" | textarea => "textarea" | select => "select"
  | option => "option" | a => "a" | img => "img" | ul => "ul" | ol => "ol" | li => "li"
  | table => "table" | thead => "thead" | tbody => "tbody" | tr => "tr" | th => "th" | td => "td"
  | form => "form" | label => "label" | fieldset => "fieldset" | legend => "legend"

/-- All tags. -/
def all : List Tag :=
  [div, span, p, pre, h1, h2, h3, h4, h5, h6, button, input, textarea, select, option, a, img, ul,
   ol, li, table, thead, tbody, tr, th, td, form, label, fieldset, legend]

/-- The tag with a name. -/
def ofName? (s : String) : Option Tag := all.find? fun t => t.name == s

/-- Elements that never hold children. -/
def isVoid (t : Tag) : Bool := t == input || t == img

theorem mem_all (t : Tag) : t ∈ all := by cases t <;> decide

@[simp] theorem ofName?_name (t : Tag) : ofName? t.name = some t := by cases t <;> rfl

theorem name_injective {s t : Tag} (h : s.name = t.name) : s = t := by
  simpa using congrArg ofName? h

theorem name_of_ofName? {s : String} {t : Tag} (h : ofName? s = some t) : t.name = s := by
  have := List.find?_some h
  simpa using this

end Tag

end AssistantUI
