import AssistantUI.Number.Binary64

/-!
# The fewest digits that read back

A double is written with as few digits as still identify it. The decimals that read
back as a given double are those between the midpoints to its two neighbours. If the
grid of `n`-digit decimals meets that interval at all, it does so next to the value, so
it is enough to test the two grid points around the value for `n = 1, 2, …, 17`; the
first grid that meets the interval wins, and of two points the nearer one.
-/

namespace AssistantUI.Binary64

/-- A positive decimal `digits * 10 ^ exponent`. -/
structure Decimal where
  digits : Nat
  exponent : Int
  deriving DecidableEq, Inhabited

namespace Decimal

/-- The decimal as a quotient of naturals. -/
def quotient (d : Decimal) : Nat × Nat :=
  (d.digits * Nat.pow 10 d.exponent.toNat, Nat.pow 10 (-d.exponent).toNat)

/-- Trailing zeros move into the exponent; `fuel` bounds their number. -/
def normalize (d : Decimal) : Nat → Decimal
  | 0 => d
  | fuel + 1 =>
    if d.digits ≠ 0 ∧ d.digits % 10 = 0 then
      normalize ⟨d.digits / 10, d.exponent + 1⟩ fuel
    else d

end Decimal

/--
Does the decimal lie among the numbers that round to this magnitude?

The ends of the interval are the midpoints to the neighbours, written over a quarter of the
last place because the gap below may be half as wide. They belong to the interval exactly
when the significand is even.
-/
def Magnitude.readsBack (m : Magnitude) (d : Decimal) : Bool :=
  let (p, q) := d.quotient
  let (scale, unit) := Magnitude.quotient ⟨1, m.exponent - 2, false⟩
  let low := (if m.narrowBelow then 4 * m.significand - 1 else 4 * m.significand - 2) * scale * q
  let high := (4 * m.significand + 2) * scale * q
  let here := p * unit
  if m.significand % 2 = 0 then low ≤ here && here ≤ high else low < here && here < high

/-- How many decimal digits a positive natural has. -/
def digitCount (n : Nat) : Nat := (Nat.toDigits 10 n).length

/-- The least `k` with `p / q < 10 ^ k`, for a positive quotient. -/
def decade (p q : Nat) : Int :=
  if q ≤ p then digitCount (p / q)
  else
    let k := digitCount (q / p) - 1
    if q = p * Nat.pow 10 k then 1 - (k : Int) else -(k : Int)

/-- Of the two points of the grid `10 ^ exponent` around `p / q`, the nearer one that passes. -/
def nearestOnGrid (passes : Decimal → Bool) (p q : Nat) (exponent : Int) : Option Decimal :=
  let num := p * Nat.pow 10 (-exponent).toNat
  let den := q * Nat.pow 10 exponent.toNat
  let below : Decimal := ⟨num / den, exponent⟩
  let above : Decimal := ⟨num / den + 1, exponent⟩
  match passes below && below.digits != 0, passes above with
  | true, true =>
    let rest := 2 * (num % den)
    some (if rest > den || (rest == den && below.digits % 2 == 1) then above else below)
  | true, false => some below
  | false, true => some above
  | false, false => none

/--
The shortest decimal that reads back as a positive magnitude, the nearest one if there are
several. Seventeen digits always suffice; were they not to, the exact value would be given.
-/
def Magnitude.shortest (m : Magnitude) : Decimal :=
  let (p, q) := m.quotient
  let k := decade p q
  let found := (List.range 17).findSome? fun (n : Nat) =>
    nearestOnGrid m.readsBack p q (k - (n + 1))
  let exact : Decimal :=
    ⟨m.significand * Nat.pow 5 (-m.exponent).toNat * Nat.pow 2 m.exponent.toNat, min m.exponent 0⟩
  let d := found.getD exact
  d.normalize (digitCount d.digits)

example : (magnitude (ofDecimal false 3 (-1))).shortest = ⟨3, -1⟩ := by decide +kernel
example : (magnitude (ofDecimal false 1 23)).shortest = ⟨1, 23⟩ := by decide +kernel
example : (magnitude ⟨1⟩).shortest = ⟨5, -324⟩ := by decide +kernel

end AssistantUI.Binary64
