import AssistantUI.Http.Address
import AssistantUI.Json.Reader
import AssistantUI.Text.Casing
import AssistantUI.Text.Encoding

/-!
# Requests and responses

What travels between a client and a server, as far as the two look at it: the method and the
address of a request, the status of a response, and the body of either. A body is JSON or it
is not, for some reason.
-/

namespace AssistantUI.Http

/-- The body of a request or a response. -/
inductive Body where
  | json (j : Json)
  /-- A text that is no JSON, and why it is none. -/
  | text (s : String) (fault : Fault)

/-- The JSON that bytes stand for, in whichever encoding. -/
def jsonOfBytes (bytes : List UInt8) : Except Fault Json :=
  match Text.ofBytes? bytes with
  | some s => Json.read s
  | none => .error .notAText

/-- The body that a text makes. -/
def Body.ofText (s : String) : Body :=
  match jsonOfBytes s.toUTF8.toList with
  | .ok j => .json j
  | .error f => .text s f

/-- A body as a value; a text that is no JSON stands for itself. -/
def Body.value : Body → Json
  | json j => j
  | text s _ => .str s

/-- A request. -/
structure Request where
  method : String
  address : Address
  body : Except Fault Json

/-- The request for an address at a place. The case of its method does not matter. -/
def Request.at (place : Address) (method address : String) (body : Except Fault Json) :
    Except Fault Request := do
  return ⟨Text.upper method, place.resolve (← Address.parse address), body⟩

/-- The path that a request asks for. -/
def Request.path (r : Request) : String := r.address.target

/-- A response. -/
structure Response where
  status : Int
  body : Body

/-- Does the response say that the request failed? -/
def Response.isError (r : Response) : Bool := 400 ≤ r.status && r.status ≤ 599

end AssistantUI.Http
