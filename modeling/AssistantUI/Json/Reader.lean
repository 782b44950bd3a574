import AssistantUI.Fault
import AssistantUI.Text.Hexadecimal
import AssistantUI.Text.Integer

/-!
# Reading JSON text

A text is cut into brackets, separators and scalars by `token?`, and `Reading.step` puts one
token after another into the containers that are open. Reading ends at the first fault, and
it does end, since a token is never empty.

Beyond the standard the reader takes `NaN`, `Infinity` and `-Infinity`, and a number too
large for a double is an infinity. It refuses raw control characters in strings,
numbers with leading zeros, and anything after the value. An integer that is too long is a
fault of its own.
-/

namespace AssistantUI.Json

/-! ## Tokens -/

/-- The pieces of a JSON text. -/
inductive Token where
  | openArray
  | closeArray
  | openObject
  | closeObject
  | comma
  | colon
  | scalar (j : Json)
  /-- An integer with more digits than are read. -/
  | longInteger
  deriving Inhabited

/-- The four characters that may stand between tokens. -/
def isGap (c : Char) : Bool := c == ' ' || c == '\t' || c == '\n' || c == '\r'

/-- The value of four hexadecimal digits. -/
def hex4? (a b c d : Char) : Option Nat := do
  let digits ← [a, b, c, d].mapM Text.hexValue?
  return digits.foldl (fun n digit => n * 16 + digit) 0

/-- The characters that follow a backslash and stand for another one. -/
def shortEscape? (c : Char) : Option Nat :=
  if c = '"' || c = '\\' || c = '/' then some c.toNat
  else if c = 'b' then some 8
  else if c = 'f' then some 12
  else if c = 'n' then some 10
  else if c = 'r' then some 13
  else if c = 't' then some 9
  else none

/--
The inside of a string up to its closing quote, as code points and sixteen-bit units in
reverse, with what follows the quote.
-/
def stringUnits (acc : List Nat) : List Char → Option (List Nat × List Char)
  | [] => none
  | '"' :: rest => some (acc, rest)
  | '\\' :: 'u' :: a :: b :: c :: d :: rest =>
    match hex4? a b c d with
    | some n => stringUnits (n :: acc) rest
    | none => none
  | '\\' :: e :: rest =>
    match shortEscape? e with
    | some n => stringUnits (n :: acc) rest
    | none => none
  | c :: rest => if c.toNat < 32 ∨ c = '\\' then none else stringUnits (c.toNat :: acc) rest

/-- Joins the halves of characters beyond sixteen bits; a half on its own is no character. -/
def joinUnits : List Nat → Option (List Char)
  | [] => some []
  | n :: rest =>
    if 0xD800 ≤ n ∧ n < 0xDC00 then
      match rest with
      | m :: rest =>
        if 0xDC00 ≤ m ∧ m < 0xE000 then
          (joinUnits rest).map (Char.ofNat (0x10000 + (n - 0xD800) * 0x400 + (m - 0xDC00)) :: ·)
        else none
      | [] => none
    else if 0xDC00 ≤ n ∧ n < 0xE000 then none
    else (joinUnits rest).map (Char.ofNat n :: ·)

/-- A string whose opening quote has been read. -/
def stringToken? (s : List Char) : Option (Token × List Char) := do
  let (units, rest) ← stringUnits [] s
  return (.scalar (.str (String.ofList (← joinUnits units.reverse))), rest)

/-- The value of a row of ASCII digits. -/
def digitsValue (ds : List Char) : Nat := ds.foldl (fun n c => n * 10 + (c.toNat - 48)) 0

/-- The exponent at the start of a text, if one is there, and what follows it. -/
def exponentPart (s : List Char) : Option (Int × List Char) :=
  match s with
  | e :: rest =>
    if e = 'e' ∨ e = 'E' then
      let (negative, rest) := match rest with
        | '-' :: rest => (true, rest)
        | '+' :: rest => (false, rest)
        | rest => (false, rest)
      let ds := rest.takeWhile Char.isDigit
      if ds.isEmpty then none
      else
        let n : Int := digitsValue ds
        some (if negative then -n else n, rest.dropWhile Char.isDigit)
    else none
  | [] => none

/-- The digits behind a point at the start of a text, if there are any, and what follows them. -/
def fractionPart (s : List Char) : Option (List Char × List Char) :=
  match s with
  | '.' :: rest =>
    let ds := rest.takeWhile Char.isDigit
    if ds.isEmpty then none else some (ds, rest.dropWhile Char.isDigit)
  | _ => none

/-- A number whose sign has been read. With a fraction or an exponent it is a double. -/
def numberToken? (negative : Bool) (s : List Char) : Option (Token × List Char) :=
  let whole := match s with
    | '0' :: rest => (['0'], rest)
    | s => (s.takeWhile Char.isDigit, s.dropWhile Char.isDigit)
  if whole.1.isEmpty then none
  else
    let fraction := fractionPart whole.2
    let afterFraction := (fraction.map Prod.snd).getD whole.2
    let exponent := exponentPart afterFraction
    let rest := (exponent.map Prod.snd).getD afterFraction
    let digits := whole.1 ++ (fraction.map Prod.fst).getD []
    if fraction.isNone && exponent.isNone then
      if digits.length > Text.maxDigits then some (.longInteger, rest)
      else
      let n : Int := digitsValue digits
      some (.scalar (.int (if negative then -n else n)), rest)
    else
      let scale := (exponent.map Prod.fst).getD 0 - ((fraction.map Prod.fst).getD []).length
      some (.scalar (.float (.ofDecimal negative (digitsValue digits) scale)), rest)

/-- The token that starts with `c` and goes on with `s`. -/
def token? (c : Char) (s : List Char) : Option (Token × List Char) :=
  match c, s with
  | '[', s => some (.openArray, s)
  | ']', s => some (.closeArray, s)
  | '\x7b', s => some (.openObject, s)
  | '\x7d', s => some (.closeObject, s)
  | ',', s => some (.comma, s)
  | ':', s => some (.colon, s)
  | '"', s => stringToken? s
  | 'n', 'u' :: 'l' :: 'l' :: s => some (.scalar .null, s)
  | 't', 'r' :: 'u' :: 'e' :: s => some (.scalar (.bool true), s)
  | 'f', 'a' :: 'l' :: 's' :: 'e' :: s => some (.scalar (.bool false), s)
  | 'N', 'a' :: 'N' :: s => some (.scalar (.float .nan), s)
  | 'I', 'n' :: 'f' :: 'i' :: 'n' :: 'i' :: 't' :: 'y' :: s =>
    some (.scalar (.float (.infinity false)), s)
  | '-', 'I' :: 'n' :: 'f' :: 'i' :: 'n' :: 'i' :: 't' :: 'y' :: s =>
    some (.scalar (.float (.infinity true)), s)
  | '-', s => numberToken? true s
  | c, s => numberToken? false (c :: s)

/-! ## Values -/

/-- A container that is open, with what has been read of it. -/
inductive Frame where
  | array (done : List Json)
  | object (done : Dict String Json) (key : String)

/-- What may come next. -/
inductive Reading where
  /-- A value. -/
  | value (outer : List Frame)
  /-- A value or the end of an array. -/
  | firstItem (outer : List Frame)
  /-- A key or the end of an object. -/
  | firstKey (outer : List Frame)
  /-- A key. -/
  | key (outer : List Frame) (done : Dict String Json)
  /-- The colon behind a key. -/
  | colon (outer : List Frame) (done : Dict String Json) (key : String)
  /-- What the value just read leads to in its container. -/
  | after (outer : List Frame) (j : Json)

namespace Reading

/-- Starts a value with a token. -/
def start (outer : List Frame) : Token → Except Fault Reading
  | .openArray => .ok (.firstItem outer)
  | .openObject => .ok (.firstKey outer)
  | .scalar j => .ok (.after outer j)
  | .longInteger => .error .tooManyDigits
  | _ => .error .invalidJson

/-- Takes one token. -/
def step : Reading → Token → Except Fault Reading
  | .firstItem outer, .closeArray => .ok (.after outer (.arr []))
  | .firstItem outer, t => start (.array [] :: outer) t
  | .value outer, t => start outer t
  | .firstKey outer, .closeObject => .ok (.after outer (.obj []))
  | .firstKey outer, .scalar (.str k) => .ok (.colon outer ∅ k)
  | .key outer done, .scalar (.str k) => .ok (.colon outer done k)
  | .colon outer done k, .colon => .ok (.value (.object done k :: outer))
  | .after (.array done :: outer) j, .comma => .ok (.value (.array (j :: done) :: outer))
  | .after (.array done :: outer) j, .closeArray => .ok (.after outer (.arr (j :: done).reverse))
  | .after (.object done k :: outer) j, .comma => .ok (.key outer (done.insert k j))
  | .after (.object done k :: outer) j, .closeObject =>
    .ok (.after outer (ofDict (done.insert k j)))
  | _, _ => .error .invalidJson

/-- The value, if all containers are closed. -/
def finish : Reading → Except Fault Json
  | .after [] j => .ok j
  | _ => .error .invalidJson

/-- Reads on to the end of a text. -/
def complete (r : Reading) (s : List Char) : Except Fault Json :=
  match s with
  | [] => r.finish
  | c :: rest =>
    if isGap c then complete r rest
    else match token? c rest with
      | none => .error .invalidJson
      | some (t, rest') =>
        if rest'.length < rest.length + 1 then
          match r.step t with
          | .ok r' => complete r' rest'
          | .error f => .error f
        else .error .invalidJson
termination_by s.length

end Reading

/-- Reads a JSON text that holds one value and nothing else. -/
def read (s : String) : Except Fault Json := Reading.complete (.value []) s.toList

end AssistantUI.Json
