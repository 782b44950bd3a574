import AssistantUI.Service.Routes

/-!
# Clients

A client gives access to a service: directly, or over a transport that carries requests to
an address and brings responses back. A response that says that the request failed is
passed on as a refusal, with its status and its body.
-/

namespace AssistantUI

/-- Access to a service in a world `ω`. -/
structure Client (ω : Type) where
  /-- Has a message of a conversation answered. -/
  send : (message conversation user : Json) → Act ω Json
  /-- Asks for a user interface. -/
  generate : (type parameters user : Json) → Act ω Json

namespace Client

variable {ω : Type}

/-- Access to a service at hand. -/
def ofService (service : Service ω) : Client (Service.State ω) where
  send message conversation user := do
    return (← service.process message conversation user).toJson
  generate type parameters user := do
    return (← service.generate type parameters user).toJson

/-- An address without the slashes at its end. -/
def trimSlashes (address : String) : String :=
  String.ofList (address.toList.reverse.dropWhile (· == '/')).reverse

/-- The address of the service, without slashes at the end: the one given, or the settings'. -/
def baseUrl (settings : Settings) (given : Json) : Except Fault String :=
  if !given.truthy then .ok (trimSlashes settings.apiBaseUrl)
  else match given with
    | .str address => .ok (trimSlashes address)
    | j => .error (.onAttribute j "rstrip")

/-- What a response means to who asked. -/
def outcome (r : Http.Response) : Except Fault Json :=
  if r.isError then .error (.refused r.status r.body.value)
  else match r.body with
    | .json j => .ok j
    | .text _ f => .error f

/--
Posts a value, which must be one that JSON can express. That an address says nothing of where
the service is turns out only after the transport has dealt with it somehow.
-/
def post (transport : Http.Request → Act ω Http.Response) (address : String) (j : Json) :
    Act ω Json := do
  let request ← Http.Request.at .empty "POST" address (.ok j)
  unless j.isExpressible do throw .notExpressible
  let response ← transport request
  unless request.address.isAbsolute do throw .addressIncomplete
  outcome response

/-- Access to a service at an address. -/
def http (address : String) (transport : Http.Request → Act ω Http.Response) : Client ω where
  send message conversation user :=
    post transport (address ++ "/agent/process")
      (.obj [("message", message), ("conversationId", conversation), ("userId", user)])
  generate type parameters user :=
    post transport (address ++ "/ui/generate")
      (.obj [("type", type), ("parameters", parameters.orElse (.obj [])), ("userId", user)])

end Client

end AssistantUI
