import AssistantUI.Number.Shortest

/-!
# Numbers as text

Which digits a double has is settled by `Magnitude.shortest`. What remains are
decisions of the format: when to write an exponent, how wide it is, whether a whole
number keeps its `.0`, and what stands for the values that are no numbers. They are the
fields of a `NumberStyle`; the text of a double depends on nothing else.
-/

namespace AssistantUI

/-- The decisions of a format on how doubles are laid out. -/
structure NumberStyle where
  /-- The least decimal exponent that is written without an exponent part. -/
  leastPositional : Int
  /-- The first decimal exponent that needs an exponent part again. -/
  firstExponential : Int
  /-- How many digits an exponent part has at least. -/
  exponentWidth : Nat
  notANumber : String
  infinity : String

namespace NumberStyle

/-- Doubles in running text: positional from `0.0001` up to sixteen digits. -/
def plain : NumberStyle := ⟨-4, 16, 2, "nan", "inf"⟩

/-- Doubles in JSON text, which differs in the names of the values that are no numbers. -/
def json : NumberStyle := { plain with notANumber := "NaN", infinity := "Infinity" }

end NumberStyle

namespace Binary64

/-- Puts zeros in front of a text of digits until it has the given width. -/
def padLeft (width : Nat) (s : List Char) : List Char := List.replicate (width - s.length) '0' ++ s

/-- The digits `ds` of a number whose first digit has weight `10 ^ (point - 1)`, positionally. -/
def positional (ds : List Char) (point : Int) : List Char :=
  if point ≤ 0 then ['0', '.'] ++ List.replicate (-point).toNat '0' ++ ds
  else if point.toNat < ds.length then ds.take point.toNat ++ ['.'] ++ ds.drop point.toNat
  else ds ++ List.replicate (point.toNat - ds.length) '0' ++ ['.', '0']

/-- The digits `ds` with an exponent part; the exponent always has a sign. -/
def exponential (width : Nat) (ds : List Char) (exponent : Int) : List Char :=
  let mantissa := match ds with
    | d :: e :: rest => d :: '.' :: e :: rest
    | short => short
  mantissa ++ ['e', if exponent < 0 then '-' else '+'] ++
    padLeft width (Nat.toDigits 10 exponent.natAbs)

/-- The text of a double in a style. -/
def toText (style : NumberStyle) (x : Binary64) : String :=
  if x.isNaN then style.notANumber
  else
    let sign := if x.negative then ['-'] else []
    if !x.isFinite then String.ofList (sign ++ style.infinity.toList)
    else if x.isZero then String.ofList (sign ++ ['0', '.', '0'])
    else
      let d := x.magnitude.shortest
      let ds := Nat.toDigits 10 d.digits
      let exponent := d.exponent + ds.length - 1
      let body :=
        if style.leastPositional ≤ exponent ∧ exponent < style.firstExponential then
          positional ds (exponent + 1)
        else exponential style.exponentWidth ds exponent
      String.ofList (sign ++ body)

example : (ofDecimal false 15 15).toText .plain = "1.5e+16" := by decide +kernel
example : (ofDecimal true 1 (-4)).toText .plain = "-0.0001" := by decide +kernel
example : (ofDecimal false 100 0).toText .json = "100.0" := by decide +kernel

end Binary64

end AssistantUI
