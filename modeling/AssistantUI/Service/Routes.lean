import AssistantUI.Http
import AssistantUI.Service.Basic

/-!
# The service behind an address

Each of the two things that the service does has a path, to which a request is posted. What
is refused is answered with the status and the body of the refusal, and any other failure
with a text that does not tell what it was.
-/

namespace AssistantUI.Service

open Http

variable {ω : Type} (service : Service ω)

/-- The paths of the service, and the methods by which they are asked for. -/
def routes : List (String × String) :=
  [("/health", "GET"), ("/agent/process", "POST"), ("/ui/generate", "POST")]

mutual

/-- A value as it is shown outside: members whose names start with `_sa` are kept back. -/
def shown (j : Json) : Json :=
  match j with
  | .arr items => .arr (shownItems items)
  | .obj members => .obj (shownMembers members)
  | j => j

/-- The items of a list as they are shown outside. -/
def shownItems (items : List Json) : List Json :=
  match items with
  | [] => []
  | j :: rest => shown j :: shownItems rest

/-- The members of an object that are shown outside. -/
def shownMembers (members : List (String × Json)) : List (String × Json) :=
  match members with
  | [] => []
  | (k, j) :: rest =>
    if "_sa".toList.isPrefixOf k.toList then shownMembers rest
    else (k, shown j) :: shownMembers rest

end

/-- A response with a JSON body, which must be one that JSON can express. -/
def responseOf (status : Int) (j : Json) : Act (State ω) Response :=
  if j.isExpressible then pure ⟨status, .json j⟩ else throw .notExpressible

/-- The members of the object in the body of a request. -/
def payload (r : Request) : Except Fault (List (String × Json)) :=
  match r.body with
  | .ok (.obj members) => .ok members
  | _ => .error missingFields

/-- The response to a request that is carried out by `act`, with a text for its failure. -/
def answer (failure : String) (act : Act (State ω) Json) : Act (State ω) Response := do
  match ← act.attempt with
  | .ok j => responseOf 200 (shown j)
  | .error (.refused status body) => responseOf status body
  | .error _ => responseOf 500 (errorBody failure)

/-- What is said where a message could not be processed. -/
def processFailure : String := "Could not process message"

/-- What is said where a user interface could not be generated. -/
def generateFailure : String := "Could not generate UI components"

/-- A path with the slash at its end taken away, or with one put there if there is none. -/
def otherSlash (path : String) : String :=
  match path.toList.reverse with
  | '/' :: rest => String.ofList (rest.dropWhile (· == '/')).reverse
  | _ => path ++ "/"

/-- Answers a request. -/
def handle (r : Request) : Act (State ω) Response :=
  match r.path, r.method with
  | "/health", "GET" => responseOf 200 (.obj [("status", .str "ok")])
  | "/agent/process", "POST" => answer processFailure do
    let p ← payload r
    return (← service.process (Json.member p "message") (Json.member p "conversationId")
      (Json.member p "userId")).toJson
  | "/ui/generate", "POST" => answer generateFailure do
    let p ← payload r
    return (← service.generate (Json.member p "type") (Json.member p "parameters")
      (Json.member p "userId")).toJson
  | path, _ =>
    if (routes.lookup path).isSome then
      responseOf 405 (.obj [("detail", .str "Method Not Allowed")])
    else if (routes.lookup (otherSlash path)).isSome then pure ⟨307, Body.ofText ""⟩
    else responseOf 404 (.obj [("detail", .str "Not Found")])

end AssistantUI.Service
