import AssistantUI.Proofs.Service.Remote

/-!
# What a client makes of a response

A call of a client at an address is one request, to which there is one response
(`Inquiry.Answered`), and no result comes from anywhere else (`Inquiry.runIn_eq_ok_iff`). What comes
of the call is settled by the status of the response and by its body. The body is bytes, which stand
for JSON, in whichever encoding, or for none; whoever does not expect JSON reads a text in them.

A status says success, failure, or something else: that there is more to come, or that it is to be
found elsewhere. A strict client gives a result for a success, and refuses everything else with the
status and the body (`Strict`). This client asks for failure instead of success. So the rest counts
as a success: JSON is handed out as the result, and anything but JSON is a fault of the reader,
which tells nothing of the status. Where a status says success or failure, the two questions come to
the same; where it says something else, they never do (`answered_strict_iff`).
-/

namespace AssistantUI

/-! ## Bytes that are no JSON -/

namespace Json

/-- The reader fails, if at all, for want of JSON or for a number that is too long. -/
def Misreads {α : Type} (x : Except Fault α) : Prop :=
  ∀ f, x = .error f → f = .invalidJson ∨ f = .tooManyDigits

namespace Misreads

variable {α : Type}

theorem ok (a : α) : Misreads (.ok a) := nofun

theorem invalidJson : Misreads (.error .invalidJson : Except Fault α) := by
  rintro f ⟨⟩
  exact .inl rfl

theorem tooManyDigits : Misreads (.error .tooManyDigits : Except Fault α) := by
  rintro f ⟨⟩
  exact .inr rfl

end Misreads

theorem Reading.misreads_start (outer : List Frame) (t : Token) : Misreads (start outer t) := by
  cases t with
  | openArray | openObject | scalar => exact .ok _
  | longInteger => exact .tooManyDigits
  | _ => exact .invalidJson

theorem Reading.misreads_step (r : Reading) (t : Token) : Misreads (r.step t) := by
  unfold step
  split
  -- the token belongs there, it starts a value, or nothing is started by it
  all_goals first
    | exact .ok _
    | exact misreads_start _ _
    | exact .invalidJson

theorem Reading.misreads_complete (r : Reading) (s : List Char) : Misreads (r.complete s) := by
  induction r, s using complete.induct with
  | case1 r =>
    rw [complete]
    unfold finish
    split
    · exact .ok _
    · exact .invalidJson
  | case2 r c rest hgap ih =>
    rw [complete, if_pos hgap]
    exact ih
  | case3 r c rest hgap htoken =>
    rw [complete, if_neg hgap, htoken]
    exact .invalidJson
  | case4 r c rest hgap t rest' htoken hshorter r' hstep ih =>
    rw [complete, if_neg hgap, htoken]
    simp only [if_pos hshorter, hstep]
    exact ih
  | case5 r c rest hgap t rest' htoken hshorter f hstep =>
    rw [complete, if_neg hgap, htoken]
    simp only [if_pos hshorter, hstep]
    intro g hg
    exact misreads_step r t g (hstep.trans (by cases hg; rfl))
  | case6 r c rest hgap t rest' htoken hlonger =>
    rw [complete, if_neg hgap, htoken]
    simp only [if_neg hlonger]
    exact .invalidJson

theorem misreads_read (s : String) : Misreads (read s) := Reading.misreads_complete _ _

end Json

namespace Http

/-- Bytes are no JSON because they are no text, or because the text is none. -/
theorem fault_of_jsonOfBytes {bytes : List UInt8} {f : Fault} (h : jsonOfBytes bytes = .error f) :
    f ∈ [.notAText, .invalidJson, .tooManyDigits] := by
  unfold jsonOfBytes at h
  split at h
  · next s hs =>
    rcases Json.misreads_read s f h with rfl | rfl
    · decide
    · decide
  · cases h
    decide

theorem neverRefuses_jsonOfBytes (bytes : List UInt8) : NeverRefuses (jsonOfBytes bytes) := by
  intro status body h
  have hmem := fault_of_jsonOfBytes h
  simp at hmem

/-! ## Responses -/

/-- The body that bytes make, which are this text to whoever does not expect JSON. -/
def Body.ofBytes (text : String) (bytes : List UInt8) : Body :=
  match jsonOfBytes bytes with
  | .ok j => .json j
  | .error f => .text text f

theorem Body.ofText_eq (s : String) : ofText s = ofBytes s s.toUTF8.toList := rfl

/-- The status of a success. -/
def IsSuccess (status : Int) : Prop := 200 ≤ status ∧ status ≤ 299

/-- The status of a failure, of the one who asks or of the service. -/
def IsFailure (status : Int) : Prop := 400 ≤ status ∧ status ≤ 599

instance (status : Int) : Decidable (IsSuccess status) := inferInstanceAs (Decidable (_ ∧ _))

instance (status : Int) : Decidable (IsFailure status) := inferInstanceAs (Decidable (_ ∧ _))

end Http

namespace Client

open Http (IsSuccess IsFailure jsonOfBytes)

/-! ## Strict clients -/

/--
What came of a call is strict about a response: a result is given for a success only, and for every
other status there is a refusal with the status and the body.
-/
structure Strict (status : Int) (text : String) (bytes : List UInt8)
    (came : Except Fault Json) : Prop where
  /-- Results are for successes. -/
  result : ∀ j, came = .ok j → IsSuccess status
  /-- Where the body is JSON, this is what comes with the refusal. -/
  json : ¬IsSuccess status → ∀ j, jsonOfBytes bytes = .ok j → came = .error (.refused status j)
  /-- Where it is none, its text comes with the refusal. -/
  text : ¬IsSuccess status → (∀ j, jsonOfBytes bytes ≠ .ok j) →
    came = .error (.refused status (.str text))

theorem outcome_eq_ok_iff {r : Http.Response} {j : Json} :
    outcome r = .ok j ↔ ¬IsFailure r.status ∧ r.body = .json j := by
  by_cases herror : r.isError = true
  · rw [outcome_of_isError herror]
    exact ⟨nofun, fun h => absurd (isError_iff.mp herror) h.1⟩
  · have hfailure : ¬IsFailure r.status := fun h => herror (isError_iff.mpr h)
    rw [outcome, if_neg herror]
    cases r.body with
    | json j' => simp [hfailure]
    | text s f => simp

section

variable {status : Int} {text : String} {bytes : List UInt8}

/-- What is no failure is read, and its status makes no difference any more. -/
theorem outcome_of_not_isFailure (h : ¬IsFailure status) :
    outcome ⟨status, .ofBytes text bytes⟩ = jsonOfBytes bytes := by
  have herror : ¬(⟨status, .ofBytes text bytes⟩ : Http.Response).isError = true :=
    fun herror => h (isError_iff.mp herror)
  rw [outcome, if_neg herror, Http.Body.ofBytes]
  cases jsonOfBytes bytes with
  | ok j => rfl
  | error f => rfl

theorem strict_of_isFailure (h : IsFailure status) :
    Strict status text bytes (outcome ⟨status, .ofBytes text bytes⟩) := by
  have herror : (⟨status, .ofBytes text bytes⟩ : Http.Response).isError = true :=
    isError_iff.mpr h
  rw [outcome_of_isError herror]
  dsimp only
  constructor
  · intro j hj
    cases hj
  · intro _ j hj
    rw [Http.Body.ofBytes, hj]
    rfl
  · intro _ hnone
    rw [Http.Body.ofBytes]
    cases hread : jsonOfBytes bytes with
    | ok j => exact absurd hread (hnone j)
    | error f => rfl

/-- Reading what is no success as if it were one is not strict, whether it is JSON or not. -/
theorem not_strict_jsonOfBytes (h : ¬IsSuccess status) :
    ¬Strict status text bytes (jsonOfBytes bytes) := by
  intro hstrict
  cases hread : jsonOfBytes bytes with
  | ok j => exact h (hstrict.result j hread)
  | error f =>
    -- a fault of the reader is taken for no refusal
    have hnone : ∀ j, jsonOfBytes bytes ≠ .ok j := by
      intro j hj
      rw [hj] at hread
      cases hread
    exact Http.neverRefuses_jsonOfBytes bytes _ _ (hstrict.text h hnone)

theorem strict_outcome_iff :
    Strict status text bytes (outcome ⟨status, .ofBytes text bytes⟩) ↔
      IsSuccess status ∨ IsFailure status := by
  constructor
  · intro hstrict
    by_cases hfailure : IsFailure status
    · exact .inr hfailure
    · rw [outcome_of_not_isFailure hfailure] at hstrict
      by_contra hneither
      exact not_strict_jsonOfBytes (fun h => hneither (.inl h)) hstrict
  · rintro (hsuccess | hfailure)
    · exact ⟨fun _ _ => hsuccess, fun h => absurd hsuccess h, fun h => absurd hsuccess h⟩
    · exact strict_of_isFailure hfailure

end

/-! ## A call and the response to it -/

section

variable {ω : Type} {transport : Http.Request → Act ω Http.Response}

/-- What is given for a value that was posted is what was made of a response. -/
theorem response_of_runIn_post {address : String} {j result : Json} {w w' : ω}
    (h : (post transport address j).runIn w = (.ok result, w')) :
    ∃ request r, Http.Request.at .empty "POST" address (.ok j) = .ok request ∧
      request.address.isAbsolute = true ∧ j.isExpressible = true ∧
      (transport request).runIn w = (.ok r, w') ∧ outcome r = .ok result := by
  unfold post at h
  obtain ⟨request, w₁, hmade, h⟩ := Act.of_runIn_bind_ok h
  rw [Act.runIn_lift] at hmade
  obtain ⟨hrequest, rfl⟩ := Prod.mk.inj hmade
  dsimp only at h
  -- the value can be sent, or this is a fault before anything is asked
  by_cases hj : j.isExpressible = true
  · rw [if_pos hj] at h
    obtain ⟨r, w₁, hresponse, h⟩ := Act.of_runIn_bind_ok h
    by_cases habsolute : request.address.isAbsolute = true
    · rw [if_pos habsolute, Act.runIn_lift] at h
      obtain ⟨houtcome, rfl⟩ := Prod.mk.inj h
      exact ⟨request, r, hrequest, habsolute, hj, hresponse, houtcome⟩
    · rw [if_neg habsolute] at h
      cases h
  · rw [if_neg hj] at h
    cases h

/-- Something asked of a client, whatever is given to it. -/
inductive Inquiry where
  | message (text conversation user : Json)
  | interface (type parameters user : Json)

namespace Inquiry

/-- Asks a client. -/
def on (client : Client ω) : Inquiry → Act ω Json
  | message text conversation user => client.send text conversation user
  | interface type parameters user => client.generate type parameters user

/-- The path of the service that is asked for. -/
def path : Inquiry → String
  | message .. => "/agent/process"
  | interface .. => "/ui/generate"

/-- What is posted there. -/
def payload : Inquiry → Json
  | message text conversation user =>
    .obj [("message", text), ("conversationId", conversation), ("userId", user)]
  | interface type parameters user =>
    .obj [("type", type), ("parameters", parameters.orElse (.obj [])), ("userId", user)]

/-- The request that is made of a service at an address. -/
def request (address : String) (i : Inquiry) : Except Fault Http.Request :=
  Http.Request.at .empty "POST" (address ++ i.path) (.ok i.payload)

theorem on_http (address : String) (transport : Http.Request → Act ω Http.Response) (i : Inquiry) :
    i.on (http address transport) = post transport (address ++ i.path) i.payload := by
  cases i with
  | message text conversation user => rfl
  | interface type parameters user => rfl

/-- The request is made of a place where a service can be, and there is a response. -/
structure Answered (i : Inquiry) (address : String)
    (transport : Http.Request → Act ω Http.Response) (w : ω) (r : Http.Response) (w' : ω) :
    Prop where
  /-- There is a request at all. -/
  expressible : i.payload.isExpressible = true
  /-- The transport carries the request there, and brings the response back. -/
  exchange : ∃ request, i.request address = .ok request ∧ request.address.isAbsolute = true ∧
    (transport request).runIn w = (.ok r, w')

variable {i : Inquiry} {address : String} {w w' : ω} {r : Http.Response}

theorem Answered.runIn (h : i.Answered address transport w r w') :
    (i.on (http address transport)).runIn w = (outcome r, w') := by
  obtain ⟨request, hrequest, habsolute, hresponse⟩ := h.exchange
  rw [on_http]
  exact runIn_post_of_response hrequest habsolute h.expressible hresponse

/--
**Results come from responses.** A call gives a result exactly if there is a response to it that
does not say failure, and the result is the JSON in its body.
-/
theorem runIn_eq_ok_iff {j : Json} :
    (i.on (http address transport)).runIn w = (.ok j, w') ↔
      ∃ r, i.Answered address transport w r w' ∧ ¬IsFailure r.status ∧ r.body = .json j := by
  constructor
  · intro h
    rw [on_http] at h
    obtain ⟨request, r, hrequest, habsolute, hexpressible, hresponse, houtcome⟩ :=
      response_of_runIn_post h
    obtain ⟨hfailure, hbody⟩ := outcome_eq_ok_iff.mp houtcome
    exact ⟨r, ⟨hexpressible, request, hrequest, habsolute, hresponse⟩, hfailure, hbody⟩
  · rintro ⟨r, hanswered, hfailure, hbody⟩
    rw [hanswered.runIn, outcome_eq_ok_iff.mpr ⟨hfailure, hbody⟩]

end Inquiry

/--
**A call is strict about success and about failure, and about nothing else.** Whatever is asked, and
whatever response there is to it, the call comes to an end in the world that the transport left.
Unless the status is that of a failure, it comes to what the reader makes of the body; so for a
status that is neither, JSON is a result, and for want of JSON there is a fault but no refusal.
-/
theorem answered_strict_iff (i : Inquiry) (address : String)
    (transport : Http.Request → Act ω Http.Response) (w w' : ω) (status : Int) (text : String)
    (bytes : List UInt8) (h : i.Answered address transport w ⟨status, .ofBytes text bytes⟩ w') :
    ∃ came, (i.on (http address transport)).runIn w = (came, w') ∧
      (Strict status text bytes came ↔ IsSuccess status ∨ IsFailure status) ∧
      (¬IsFailure status → came = jsonOfBytes bytes) := by
  refine ⟨outcome ⟨status, .ofBytes text bytes⟩, h.runIn, strict_outcome_iff, ?_⟩
  intro hfailure
  exact outcome_of_not_isFailure hfailure

/-- A transport that always brings the same response, and counts the requests. -/
def steady (r : Http.Response) (_ : Http.Request) : Act Nat Http.Response := fun n => (.ok r, n + 1)

theorem answered_steady (i : Inquiry) {address : String} (hreach : Reaches address i.path)
    (hexpressible : i.payload.isExpressible = true) (r : Http.Response) (n : Nat) :
    i.Answered address (steady r) n r (n + 1) := by
  obtain ⟨a, hparse, habsolute, -⟩ := hreach
  exact ⟨hexpressible, _, request_of_isAbsolute i.payload hparse habsolute, habsolute, rfl⟩

/-- A table, of which nothing is given. -/
def plainTable : Inquiry := .interface (.str "table") .null (.str "anonymous")

/-- A failure whose body is no JSON is refused with the body's text, after one request. -/
theorem answered_strict_iff_badGateway :
    (plainTable.on (http nearby (steady ⟨502, .ofText "bad gateway"⟩))).runIn 0 =
      (.error (.refused 502 (.str "bad gateway")), 1) := by
  rw [Http.Body.ofText_eq]
  obtain ⟨came, hrun, hstrict, -⟩ := answered_strict_iff plainTable nearby _ 0 1 502 "bad gateway" _
    (answered_steady plainTable reaches_nearby.2 (by decide) _ 0)
  have hread : jsonOfBytes "bad gateway".toUTF8.toList = .error .invalidJson := by decide +kernel
  have hfailure : IsFailure 502 := by decide
  have hcame := (hstrict.mpr (.inr hfailure)).text (by decide) fun j hj => by
    rw [hread] at hj
    cases hj
  rw [hrun, hcame]

/-- What has moved elsewhere is no success, and yet its JSON is a result. -/
theorem not_answered_strict :
    ¬ ∀ (i : Inquiry) (address : String) (transport : Http.Request → Act Nat Http.Response)
      (w w' : Nat) (status : Int) (text : String) (bytes : List UInt8),
      i.Answered address transport w ⟨status, .ofBytes text bytes⟩ w' →
        Strict status text bytes ((i.on (http address transport)).runIn w).1 := by
  intro hall
  have hanswered := answered_steady plainTable reaches_nearby.2 (by decide)
    ⟨302, .ofBytes "{}" "{}".toUTF8.toList⟩ 0
  have hstrict := hall plainTable nearby _ 0 1 302 "{}" _ hanswered
  have hmoved : ¬IsFailure 302 := by decide
  have hread : jsonOfBytes "{}".toUTF8.toList = .ok (.obj []) := by decide +kernel
  rw [hanswered.runIn, outcome_of_not_isFailure hmoved] at hstrict
  have hresult := hstrict.result (.obj []) hread
  exact absurd hresult (by decide)

end

end Client

end AssistantUI
