/-!
# Double-precision numbers

A number written with a point or an exponent is a double. Nothing here computes
with doubles: they are read from decimal text, compared, and written as text again.
So a `Binary64` is its 64 bits, and each of the three jobs is exact arithmetic on
naturals. Equality of the type is equality of the bits; equality of the *values*,
under which zero has two spellings and a NaN differs from itself, is `sameValue`.
-/

namespace AssistantUI

/-- A double, given by its bits: sign, eleven bits of exponent, fifty-two of fraction. -/
structure Binary64 where
  bits : UInt64
  deriving DecidableEq, Inhabited

namespace Binary64

/-- The biased exponent. -/
def exponentField (x : Binary64) : Nat := ((x.bits >>> 52) &&& 0x7FF).toNat

/-- The bits below the exponent. -/
def fraction (x : Binary64) : Nat := (x.bits &&& 0xFFFFFFFFFFFFF).toNat

/-- Is the sign bit set? Negative zero has it set. -/
def negative (x : Binary64) : Bool := x.bits >>> 63 == 1

/-- The two infinities and the NaNs share the largest exponent. -/
def isFinite (x : Binary64) : Bool := x.exponentField < 0x7FF

/-- Is this one of the values that are no number? -/
def isNaN (x : Binary64) : Bool := !x.isFinite && x.fraction != 0

/-- Is this one of the two zeros? -/
def isZero (x : Binary64) : Bool := x.exponentField == 0 && x.fraction == 0

/-- A non-negative value `significand * 2 ^ exponent`. -/
structure Magnitude where
  significand : Nat
  exponent : Int
  /-- The gap to the value below is half the gap to the value above. -/
  narrowBelow : Bool

/-- The magnitude of a finite double. -/
def magnitude (x : Binary64) : Magnitude :=
  if x.exponentField = 0 then ⟨x.fraction, -1074, false⟩
  else
    ⟨Nat.pow 2 52 + x.fraction, (x.exponentField : Int) - 1075,
      x.fraction == 0 && x.exponentField > 1⟩

/-- The magnitude as a quotient of naturals. -/
def Magnitude.quotient (m : Magnitude) : Nat × Nat :=
  (m.significand * Nat.pow 2 m.exponent.toNat, Nat.pow 2 (-m.exponent).toNat)

/-- Do two doubles stand for the same number? The two zeros do; a NaN stands for none. -/
def sameValue (x y : Binary64) : Bool :=
  !x.isNaN && !y.isNaN && (x.bits == y.bits || (x.isZero && y.isZero))

/-- Does the double stand for this integer? -/
def isInt (x : Binary64) (n : Int) : Bool :=
  let (p, q) := x.magnitude.quotient
  x.isFinite && p == n.natAbs * q && (n == 0 || x.negative == decide (n < 0))

/-- The integer that a double stands for, if it is a whole number. -/
def toInt? (x : Binary64) : Option Int :=
  let (p, q) := x.magnitude.quotient
  if x.isFinite ∧ p % q = 0 then some (if x.negative then -(p / q : Nat) else (p / q : Nat))
  else none

/-! ## Reading a decimal -/

/-- Attaches the sign to the bits of a magnitude. -/
def signed (negative : Bool) (bits : Nat) : Binary64 :=
  ⟨UInt64.ofNat (if negative then bits + Nat.pow 2 63 else bits)⟩

def infinity (negative : Bool) : Binary64 := signed negative (0x7FF * Nat.pow 2 52)

def nan : Binary64 := signed false (0x7FF8 * Nat.pow 2 48)

/--
The bits of the double nearest to the positive quotient `p / q`.

The exponent is the one at which the quotient has fifty-three bits, or the least one
there is. Of two equally near significands the even one is taken. A significand that
rounds up to the next power of two carries into the exponent field by itself, and one
that leaves the range gives the bits of infinity.
-/
def nearestBits (p q : Nat) : Nat :=
  let scaled (e : Int) : Nat × Nat := (p * Nat.pow 2 (-e).toNat, q * Nat.pow 2 e.toNat)
  let rough : Int := max ((p.log2 : Int) - q.log2 - 52) (-1074)
  let full := (scaled rough).1 / (scaled rough).2 ≥ Nat.pow 2 52
  let e : Int := if full then rough else max (rough - 1) (-1074)
  let (num, den) := scaled e
  let below := num / den
  let rest := 2 * (num % den)
  let significand := if rest > den || (rest == den && below % 2 == 1) then below + 1 else below
  let fieldBits := if e = -1074 then significand else (e + 1074).toNat * Nat.pow 2 52 + significand
  min fieldBits (0x7FF * Nat.pow 2 52)

/--
The double nearest to `digits * 10 ^ exponent`, with the sign attached.

Exponents far outside the range of doubles are decided by the number of digits alone, so
that no huge power of ten is ever computed.
-/
def ofDecimal (negative : Bool) (digits : Nat) (exponent : Int) : Binary64 :=
  let length : Int := (Nat.toDigits 10 digits).length
  if digits = 0 ∨ length + exponent < -330 then signed negative 0
  else if length + exponent > 330 then infinity negative
  else
    signed negative
      (nearestBits (digits * Nat.pow 10 exponent.toNat) (Nat.pow 10 (-exponent).toNat))

example : (ofDecimal false 1 0).bits = 0x3FF0000000000000 := by decide +kernel
example : (ofDecimal false 1 (-1)).bits = 0x3FB999999999999A := by decide +kernel
example : (ofDecimal true 5 (-324)).bits = 0x8000000000000001 := by decide +kernel
example : (ofDecimal false 17976931348623159 292).bits = 0x7FF0000000000000 := by decide +kernel

end Binary64

end AssistantUI
