import AssistantUI.CommandLine.Number

/-!
# Commands

The first argument names a command. Among the others, those that start with a hyphen are
options, which stand anywhere; some take a value, after an equals sign or as the next
argument. What is left over are operands, and after two hyphens everything is one. The last
of two equal options counts.
-/

namespace AssistantUI.CommandLine

/-! ## Options and operands -/

/-- Arguments, sorted out. -/
structure Arguments where
  operands : List String
  /-- The options that were given, with the value of those that take one. -/
  options : List (String × String)
  deriving DecidableEq

namespace Arguments

/-- Arguments with an operand in front. -/
def withOperand (operand : String) (a : Arguments) : Arguments :=
  { a with operands := operand :: a.operands }

/-- Arguments with an option in front. -/
def withOption (name value : String) (a : Arguments) : Arguments :=
  { a with options := (name, value) :: a.options }

/-- The name of an option, and its value if it stands after an equals sign. -/
def splitOption (s : List Char) : String × Option String :=
  (String.ofList (s.takeWhile (· != '=')),
    match s.dropWhile (· != '=') with
    | [] => none
    | _ :: value => some (String.ofList value))

/-- Is this an option, rather than an operand? A single hyphen is none. -/
def isOption (s : String) : Bool := s.toList.head? == some '-' && s != "-"

/-- Sorts arguments out, with the options that take a value and those that do not. -/
def scan (valued flags : List String) : List String → Option Arguments
  | [] => some ⟨[], []⟩
  | "--" :: rest => some ⟨rest, []⟩
  | a :: rest =>
    if isOption a then
      match splitOption a.toList with
      | (name, some value) =>
        if valued.contains name then (scan valued flags rest).map (withOption name value) else none
      | (name, none) =>
        if flags.contains name then (scan valued flags rest).map (withOption name "")
        else if valued.contains name then
          match rest with
          | value :: rest => (scan valued flags rest).map (withOption name value)
          | [] => none
        else none
    else (scan valued flags rest).map (withOperand a)

/-- The value of an option. -/
def value? (a : Arguments) (name : String) : Option String := a.options.reverse.lookup name

/-- Was an option given? -/
def has (a : Arguments) (name : String) : Bool := (a.value? name).isSome

end Arguments

/-! ## The commands -/

/-- What can be asked for. -/
inductive Command where
  /-- Serves requests, at an address of its own or that of the settings. -/
  | serve (address : Option String) (bindPort : Option Int) (dev prod reload : Bool)
  /-- Prints the definition for an archetype. -/
  | build (archetype parameters : String)
  /-- Prints what the definition in a file shows. -/
  | render (file : String)
  deriving DecidableEq

namespace Command

/-- The command to serve that its arguments make. -/
def serve? (args : List String) : Option Command := do
  let a ← Arguments.scan ["--bind-address", "--bind-port"] ["--dev", "--prod", "--reload"] args
  let bindPort ← match a.value? "--bind-port" with
    | none => some none
    | some s => (integer? s).map some
  match a.operands with
  | [] =>
    return serve (a.value? "--bind-address") bindPort (a.has "--dev") (a.has "--prod")
      (a.has "--reload")
  | _ => none

/-- The command to build that its arguments make. -/
def build? (args : List String) : Option Command := do
  let a ← Arguments.scan ["--params"] [] args
  match a.operands with
  | [archetype] => return build archetype ((a.value? "--params").getD "\x7b\x7d")
  | _ => none

/-- The command to render that its arguments make. -/
def render? (args : List String) : Option Command := do
  match (← Arguments.scan [] [] args).operands with
  | [file] => return render file
  | _ => none

/-- The command that a name and its arguments make. -/
def named? : List String → Option Command
  | "serve" :: args => serve? args
  | "build" :: args => build? args
  | "render" :: args => render? args
  | _ => none

/-- The command that arguments make, which two hyphens may stand in front of. -/
def ofArguments? : List String → Option Command
  | "--" :: args => named? args
  | args => named? args

example : ofArguments? ["build", "--params=5", "form"] = some (build "form" "5") := by
  decide +kernel

end Command

end AssistantUI.CommandLine
