import AssistantUI.Text.Blank
import AssistantUI.Text.DecimalDigit

/-!
# Integers in text

An integer is an optional sign and decimal digits of any script, among which single
underscores may stand between two digits. Blanks around it do not count. An integer of more
than `maxDigits` digits is not read at all, leading zeros included.
-/

namespace AssistantUI.Text

/-- The blanks that may stand around an integer: all but the separators of files to units. -/
def isMargin (c : Char) : Bool := isBlank c && !(0x1C ≤ c.toNat && c.toNat ≤ 0x1F)

/--
Reads digits on from `n`. `afterDigit` says whether the character before was a digit, which it
has to be at the end and before an underscore.
-/
def digitsFrom (n : Nat) (afterDigit : Bool) : List Char → Option Nat
  | [] => if afterDigit then some n else none
  | c :: rest =>
    if c = '_' then (if afterDigit then digitsFrom n false rest else none)
    else match digitValue? c with
      | some d => digitsFrom (10 * n + d) true rest
      | none => none

/-- The most digits that an integer may have. -/
def maxDigits : Nat := 4300

/-- The natural number that a list of characters is. -/
def nat? (s : List Char) : Option Nat :=
  if s.countP (· != '_') > maxDigits then none else digitsFrom 0 false s

/-- The integer that a text is. -/
def integer? (s : String) : Option Int :=
  match trimWhere isMargin s.toList with
  | '-' :: rest => (nat? rest).map fun n => -(n : Int)
  | '+' :: rest => (nat? rest).map fun n => (n : Int)
  | digits => (nat? digits).map fun n => (n : Int)

example : integer? " -1_000 " = some (-1000) ∧ integer? "1__0" = none ∧ integer? "_1" = none
    ∧ integer? "+ 1" = none ∧ integer? "" = none := by decide +kernel

end AssistantUI.Text
