import AssistantUI.Json.Key

/-!
# Faults

Most of what can be wrong with an input is reported and worked around. What is left are
faults: an operation asked of a value of the wrong kind, a refusal of the service, a
failure of the host's own code. They are causes, and their class and their wording,
which a report may show, are functions of the cause.
-/

namespace AssistantUI

/-- Why an operation failed. -/
inductive Fault where
  /-- An object's attribute was asked of a value of another kind. -/
  | noAttribute (kind : String) (name : String)
  /-- A value of this kind has no items. -/
  | notIterable (kind : String)
  /-- A value of this kind cannot be a key. -/
  | unhashable (kind : String)
  /-- An entry of a list of pairs has no items. -/
  | entryNotIterable (index : Nat)
  /-- An entry of a list of pairs has another length than two. -/
  | entryLength (index : Nat) (length : Nat)
  /-- A list of as many items as are wanted was given with more or with fewer. -/
  | itemCount (wanted : Nat) (given : Nat)
  /-- Items of these kinds have no order. -/
  | notComparable (kind : String) (other : String)
  /-- A place in a list is asked for by a value of this kind. -/
  | indexNotInteger (kind : String)
  /-- A list has no such place. -/
  | indexOutOfRange
  /-- A value of this kind is no number. -/
  | notANumber (kind : String)
  /-- Named arguments were given as something else than an object. -/
  | notAMapping (kind : String)
  /-- The same argument was given twice. -/
  | argumentTwice (name : String)
  /-- A limit is no integer. -/
  | limitNotInteger
  /-- A variable of the environment cannot be used as given. -/
  | setting (message : String)
  /-- A variable of the environment was given a value that is no text. -/
  | variableNotText (kind : String)
  /-- The name or the value of a variable holds the character that ends a text outside. -/
  | variableWithNul
  /-- The name of a variable holds the sign between name and value. -/
  | variableNameTaken
  /-- The name of a variable is empty. -/
  | variableNameEmpty
  /-- Nothing is logged at a level of this name. -/
  | levelUnknown (name : String)
  /-- A value holds a number that JSON cannot express. -/
  | notExpressible
  /-- A text is no JSON. -/
  | invalidJson
  /-- An integer has more digits than are read. -/
  | tooManyDigits
  /-- Bytes are no text. -/
  | notAText
  /-- An address is none that a request can be sent to. -/
  | addressInvalid
  /-- An address says nothing of where the service is. -/
  | addressIncomplete
  /-- A key is missing. -/
  | missingKey (key : Key)
  /-- The service refuses with a status and a body. -/
  | refused (status : Int) (body : Json)
  /-- Code outside the library failed with a message. -/
  | failure (message : String)
  /-- Host code called back into the library more deeply than it is carried out. -/
  | nestedTooDeeply
  deriving Inhabited, DecidableEq

namespace Fault

/-- The class of a fault, as reports name it. -/
def className : Fault → String
  | noAttribute .. => "AttributeError"
  | notIterable _ | unhashable _ | entryNotIterable _ | notComparable .. | indexNotInteger _
  | notANumber _ | notAMapping _ | argumentTwice _ | limitNotInteger
  | variableNotText _ => "TypeError"
  | entryLength .. | itemCount .. | setting _ | variableWithNul | variableNameTaken
  | levelUnknown _ | notExpressible | tooManyDigits | addressIncomplete => "ValueError"
  | indexOutOfRange => "IndexError"
  | variableNameEmpty => "OSError"
  | invalidJson => "JSONDecodeError"
  | notAText => "UnicodeDecodeError"
  | addressInvalid => "InvalidURL"
  | missingKey _ => "KeyError"
  | refused .. => "ApiError"
  | failure _ => "RuntimeError"
  | nestedTooDeeply => "RecursionError"

/-- What a fault has to say. -/
def message : Fault → String
  | noAttribute kind name => Json.quoted kind ++ " object has no attribute " ++ Json.quoted name
  | notIterable kind => Json.quoted kind ++ " object is not iterable"
  | unhashable kind => "unhashable type: " ++ Json.quoted kind
  | entryNotIterable index =>
    "cannot convert dictionary update sequence element #" ++ toString index ++ " to a sequence"
  | entryLength index length =>
    "dictionary update sequence element #" ++ toString index ++ " has length " ++
      toString length ++ "; 2 is required"
  | itemCount wanted given =>
    (if given < wanted then "not enough values to unpack (expected "
      else "too many values to unpack (expected ") ++ toString wanted ++
      (if given < wanted then ", got " ++ toString given else "") ++ ")"
  | notComparable kind other => "'<' not supported between instances of " ++ Json.quoted kind ++
    " and " ++ Json.quoted other
  | indexNotInteger kind => "list indices must be integers or slices, not " ++ kind
  | indexOutOfRange => "list index out of range"
  | notANumber kind =>
    "'>' not supported between instances of " ++ Json.quoted kind ++ " and 'int'"
  | notAMapping kind => "argument after ** must be a mapping, not " ++ kind
  | argumentTwice name => "got multiple values for keyword argument " ++ Json.quoted name
  | limitNotInteger => "slice indices must be integers or None or have an __index__ method"
  | setting message => message
  | variableNotText kind => "str expected, not " ++ kind
  | variableWithNul => "embedded null byte"
  | variableNameTaken => "illegal environment variable name"
  | variableNameEmpty => "[Errno 22] Invalid argument"
  | levelUnknown name => "Unknown level: " ++ Json.quoted name
  | notExpressible => "Out of range float values are not JSON compliant"
  | invalidJson => "invalid JSON"
  | tooManyDigits => "Exceeds the limit (4300 digits) for integer string conversion"
  | notAText => "invalid start byte"
  | addressInvalid => "Invalid URL"
  | addressIncomplete => "unknown url type"
  | missingKey key => key.literal
  | refused status _ => "API error: " ++ toString status
  | failure message => message
  | nestedTooDeeply => "maximum recursion depth exceeded"

/-- Class and message, or the class alone if there is no message. -/
def describe (f : Fault) : String :=
  if f.message = "" then f.className else f.className ++ ": " ++ f.message

/-- An attribute was asked of a value that does not have it. -/
def onAttribute (j : Json) (name : String) : Fault := .noAttribute j.kindName name

end Fault

end AssistantUI
