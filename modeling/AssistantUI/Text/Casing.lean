import AssistantUI.Text.Casing.Tables

/-!
# Upper and lower case

Case conversion replaces each character by its partner, with three exceptions: a
character may have a partner of several characters, ASCII needs no table, and a capital
sigma becomes the final form at the end of a word.
-/

namespace AssistantUI.Text

/-- The character at a code point. -/
def charAt (n : Nat) : Char := Char.ofNat n

/-- The partner of a code point in a table, the code point itself if it has none. -/
def CaseRun.partner (c : Nat) : List CaseRun → Nat
  | [] => c
  | r :: rest =>
    if r.first ≤ c ∧ c ≤ r.last ∧ (c - r.first) % r.stride = 0 then ((c : Int) + r.shift).toNat
    else partner c rest

/-- Does the next character that is not passed over have case? -/
def casedNext (s : List Char) : Bool :=
  match s.dropWhile (Runs.contains caseIgnorableRuns) with
  | [] => false
  | c :: _ => Runs.contains casedRuns c

/-- Lower case of one character other than the capital sigma. -/
def lowerChar (c : Char) : List Char :=
  if c.toNat < 128 then [c.toLower]
  else if c.toNat = 0x130 then ['i', charAt 0x307]
  else [charAt (CaseRun.partner c.toNat lowerRuns)]

/--
Lower case of a text. `afterCased` says whether the last character that is not passed over
had case, which makes a sigma final if none follows.
-/
def lowerFrom (afterCased : Bool) : List Char → List Char
  | [] => []
  | c :: s =>
    let rest := lowerFrom
      (if Runs.contains caseIgnorableRuns c then afterCased else Runs.contains casedRuns c) s
    if c.toNat = 0x3A3 then
      (if afterCased && !casedNext s then charAt 0x3C2 else charAt 0x3C3) :: rest
    else lowerChar c ++ rest

/-- A text in lower case. -/
def lower (s : String) : String := String.ofList (lowerFrom false s.toList)

/-- Upper case of one character. -/
def upperChar (c : Char) : List Char :=
  if c.toNat < 128 then [c.toUpper]
  else match upperSpecials.lookup c.toNat with
    | some cs => cs.map charAt
    | none => [charAt (CaseRun.partner c.toNat upperRuns)]

/-- A text in upper case. -/
def upper (s : String) : String := String.ofList (s.toList.flatMap upperChar)

/-- A text with its first character in upper case. -/
def capitalize (s : String) : String :=
  match s.toList with
  | [] => ""
  | c :: rest => String.ofList (upperChar c ++ rest)

end AssistantUI.Text
