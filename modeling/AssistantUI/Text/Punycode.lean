/-!
# Any text in letters and digits

Where nothing but ASCII can stand, a text is written as its ASCII characters, a hyphen, and
the places of its other characters. Those are put in one after another, in the order of
their code points and from left to right among equal ones. Each place is told by how many
steps it lies behind the last one: a step leads to the next place in the text so far, and
behind its end to the front again, for the next code point. A number of steps is written in
digits up to 36, the least first, and ends with a digit below a threshold; the thresholds are
kept such that numbers like those before get short.
-/

namespace AssistantUI.Text.Punycode

/-! ## Numbers of steps -/

/-- A digit: the letters are those below 26. -/
def digit (d : Nat) : Char := if d < 26 then Char.ofNat (97 + d) else Char.ofNat (22 + d)

/-- The threshold at a place, where each place counts 36. -/
def threshold (bias place : Nat) : Nat := max 1 (min 26 (place - bias))

/-- The digits of a number, from a place on. -/
def digits (bias place n : Nat) : List Char :=
  let t := threshold bias place
  if n < t then [digit n]
  else digit (t + (n - t) % (36 - t)) :: digits bias (place + 36) ((n - t) / (36 - t))
termination_by n
decreasing_by
  have : 1 ≤ threshold bias place := Nat.le_max_left ..
  have := Nat.div_le_self (n - threshold bias place) (36 - threshold bias place)
  omega

/-- A number made small enough to be a measure of others, and 36 for each time it was divided. -/
def shrink (n : Nat) : Nat × Nat :=
  if n ≤ 455 then (n, 0)
  else
    let (m, places) := shrink (n / 35)
    (m, places + 36)
termination_by n
decreasing_by omega

/-- The bias after a number of steps that put the `placed`-th character in. -/
def nextBias (first : Bool) (steps placed : Nat) : Nat :=
  let n := steps / (if first then 700 else 2)
  let (m, places) := shrink (n + n / placed)
  places + 36 * m / (m + 38)

/-! ## Texts -/

/-- How far the writing of a text has come. -/
structure Progress where
  /-- The steps since a character was last put in. -/
  steps : Nat
  bias : Nat
  /-- How many characters the text has so far. -/
  placed : Nat
  /-- The digits so far. -/
  written : List Char

/-- Goes past a character, or puts it in if it has the code point that is due. -/
def visit (ascii due : Nat) (p : Progress) (c : Char) : Progress :=
  if c.toNat < due then { p with steps := p.steps + 1 }
  else if c.toNat = due then
    { steps := 0
      bias := nextBias (p.placed = ascii) p.steps (p.placed + 1)
      placed := p.placed + 1
      written := p.written ++ digits p.bias 36 p.steps }
  else p

/-- Puts the characters from a code point on in, of as many different ones as `fuel` says. -/
def insertFrom (s : List Char) (ascii : Nat) : Nat → Nat → Progress → Progress
  | 0, _, p => p
  | fuel + 1, point, p =>
    match ((s.map Char.toNat).filter fun n => point ≤ n).min? with
    | none => p
    | some due =>
      let p := s.foldl (visit ascii due)
        { p with steps := p.steps + (due - point) * (p.placed + 1) }
      insertFrom s ascii fuel (due + 1) { p with steps := p.steps + 1 }

/-- A text in letters and digits. -/
def encode (s : List Char) : List Char :=
  let ascii := s.filter fun c => c.toNat < 128
  ascii ++ (if ascii.isEmpty then [] else ['-']) ++
    (insertFrom s ascii.length s.length 128 ⟨0, 72, ascii.length, []⟩).written

example : encode "bücher".toList = "bcher-kva".toList := by decide +kernel

end AssistantUI.Text.Punycode
