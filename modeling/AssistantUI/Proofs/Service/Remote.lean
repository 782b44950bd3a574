import AssistantUI.Client
import AssistantUI.Proofs.Build.Expressible
import AssistantUI.Proofs.Service.Requests

/-!
# A service at hand and one at an address

A client asks the service either directly or by requests to its address. Between the two are the
defaults of both sides, the checks of the request, and the response that a failure is turned into.
None of it makes a difference to what is answered and to what is stored, except that a failure
which is no refusal is not told to those who ask from outside, and that parameters which were not
given are stored as none (`http_agrees`).

Names and times come from outside the service. So two answers, and two documents, are compared up
to the values under some names, and if both sides draw the same they agree in all.
-/

namespace AssistantUI

namespace Act

variable {ω α β : Type}

theorem runIn_attempt_bind (a : Act ω α) (f : Except Fault α → Act ω β) (w : ω) :
    (a.attempt >>= f).runIn w = (f (a.runIn w).1).runIn (a.runIn w).2 := by
  rw [runIn_bind]
  rfl

end Act

/-! ## Values that agree -/

/-- The values are the same, up to what an object has under some names. -/
inductive Json.AgreeBut (names : List String) : Json → Json → Prop where
  | refl (j : Json) : AgreeBut names j j
  | obj {ms ms' : List (String × Json)}
      (h : List.Forall₂ (fun e e' => e.1 = e'.1 ∧ (e.1 ∈ names ∨ e.2 = e'.2)) ms ms') :
      AgreeBut names (.obj ms) (.obj ms')

theorem Json.eq_of_agreeBut_nil {a b : Json} (h : AgreeBut [] a b) : a = b := by
  cases h with
  | refl => rfl
  | @obj ms ms' h =>
    have hsame : List.Forall₂ Eq ms ms' := h.imp fun e e' he =>
      Prod.ext he.1 (he.2.resolve_left List.not_mem_nil)
    rw [List.forall₂_eq_eq_eq] at hsame
    rw [hsame]

/--
The documents are the same, up to what they have under some names, and to parameters that were not
given, which may be no value in the one and none in the other.
-/
def Document.AgreeBut (names : List String) (d d' : Document) : Prop :=
  List.Forall₂ (fun e e' => e.1 = e'.1 ∧
    (e.1 ∈ names ∨ e.2 = e'.2 ∨ e.1 = "parameters" ∧ e.2 = .null ∧ e'.2 = .obj []))
    d.entries d'.entries

theorem Document.AgreeBut.refl (names : List String) (d : Document) : d.AgreeBut names d :=
  List.forall₂_same.mpr fun _ _ => ⟨rfl, .inr (.inl rfl)⟩

namespace Service

/-! ## Values that are shown as they are -/

theorem length_shownMembers_le (members : List (String × Json)) :
    (shownMembers members).length ≤ members.length := by
  induction members with
  | nil => exact Nat.le_refl _
  | cons e rest ih =>
    rw [shownMembers, List.length_cons]
    split
    · omega
    · rw [List.length_cons]
      omega

theorem shownMembers_eq_iff {members : List (String × Json)} :
    shownMembers members = members ↔
      ∀ e ∈ members, ("_sa".toList.isPrefixOf e.1.toList) = false ∧ shown e.2 = e.2 := by
  induction members with
  | nil => simp [shownMembers]
  | cons e rest ih =>
    rw [List.forall_mem_cons, ← ih, shownMembers]
    split
    · next hhidden =>
      -- a member that is left out cannot come back
      refine ⟨fun h => ?_, fun h => absurd (hhidden.symm.trans h.1.1) (by decide)⟩
      have hlength := length_shownMembers_le rest
      rw [h, List.length_cons] at hlength
      omega
    · next hshown =>
      rw [List.cons_eq_cons]
      refine ⟨fun h => ⟨⟨Bool.eq_false_iff.mpr hshown, ?_⟩, h.2⟩, fun h => ⟨?_, h.2⟩⟩
      · exact congrArg Prod.snd h.1
      · rw [h.1.2]

theorem shown_obj_iff {members : List (String × Json)} :
    shown (.obj members) = .obj members ↔
      ∀ e ∈ members, ("_sa".toList.isPrefixOf e.1.toList) = false ∧ shown e.2 = e.2 := by
  rw [shown, Json.obj.injEq, shownMembers_eq_iff]

/-- What the agent sends along can be sent, and it is shown as it is. -/
theorem carried_metadata (message : String) :
    (Agent.respond message).metadata.isExpressible = true ∧
      shown (Agent.respond message).metadata = (Agent.respond message).metadata := by
  unfold Agent.respond
  cases hrule : Agent.rule? message with
  | none => exact ⟨rfl, rfl⟩
  | some r =>
    have hrules : ∀ r ∈ Agent.rules, r.reply.metadata.isExpressible = true ∧
        shown r.reply.metadata = r.reply.metadata := by decide
    exact hrules r (List.mem_of_find?_eq_some hrule)

end Service

namespace Client

open Service

/-! ## What is asked of a client -/

/-- Something asked of a client. -/
inductive Call where
  | message (text conversation user : String)
  | interface (type : String) (parameters : Option (List (String × Json))) (user : String)

namespace Call

/-- Asks a client. -/
def on {ω : Type} (client : Client ω) : Call → Act ω Json
  | message text conversation user => client.send (.str text) (.str conversation) (.str user)
  | interface type parameters user =>
    client.generate (.str type) ((parameters.map Json.obj).getD .null) (.str user)

/-- What is said outside where it failed. -/
def failure : Call → String
  | message .. => "Could not process message"
  | interface .. => "Could not generate UI components"

/-- Can JSON express what is asked? -/
def IsExpressible : Call → Prop
  | message .. => True
  | interface _ parameters _ => ∀ ms, parameters = some ms → (Json.obj ms).isExpressible = true

end Call

/-! ## The way there and back -/

/-- A request for a path under the address comes to the service, and to this path of it. -/
def Reaches (address path : String) : Prop :=
  ∃ a, Http.Address.parse (address ++ path) = .ok a ∧ a.isAbsolute = true ∧ a.target = path

/-- What is told outside of what came of a request. -/
def told (failure : String) : Except Fault Json → Except Fault Json
  | .ok j => .ok j
  | .error (.refused status body) => .error (.refused status body)
  | .error _ => .error (.refused 500 (.obj [("error", .str failure)]))

/-- What came of a request can be carried by a response. -/
def Bearable : Except Fault Json → Prop
  | .ok j => j.isExpressible = true ∧ shown j = j
  | .error (.refused status body) => 400 ≤ status ∧ status ≤ 599 ∧ body.isExpressible = true
  | .error _ => True

theorem isError_iff {r : Http.Response} :
    r.isError = true ↔ 400 ≤ r.status ∧ r.status ≤ 599 := by
  rw [Http.Response.isError, Bool.and_eq_true, decide_eq_true_iff, decide_eq_true_iff]

theorem outcome_of_isError {r : Http.Response} (h : r.isError = true) :
    outcome r = .error (.refused r.status r.body.value) := by
  rw [outcome, if_pos h]

theorem outcome_refused {status : Int} (body : Json) (hlow : 400 ≤ status) (hhigh : status ≤ 599) :
    outcome ⟨status, .json body⟩ = .error (.refused status body) :=
  outcome_of_isError (isError_iff.mpr ⟨hlow, hhigh⟩)

section

variable {ω : Type}

/-- Whatever comes of a request is answered, and the answer is understood. -/
theorem runIn_answer (failure : String) {act : Act (Service.State ω) Json} {s : Service.State ω}
    (h : Bearable (act.runIn s).1) : ∃ response,
      (Service.answer failure act).runIn s = (.ok response, (act.runIn s).2) ∧
      outcome response = told failure (act.runIn s).1 := by
  unfold Service.answer
  rw [Act.runIn_attempt_bind]
  generalize act.runIn s = result at h ⊢
  obtain ⟨r, s'⟩ := result
  cases r with
  | ok j =>
    obtain ⟨hexpressible, hshown⟩ := h
    refine ⟨⟨200, .json j⟩, ?_, rfl⟩
    dsimp only
    rw [hshown, responseOf, if_pos hexpressible]
    rfl
  | error f =>
    cases f with
    | refused status body =>
      obtain ⟨hlow, hhigh, hexpressible⟩ := h
      refine ⟨⟨status, .json body⟩, ?_, outcome_refused body hlow hhigh⟩
      dsimp only
      rw [responseOf, if_pos hexpressible]
      rfl
    | _ => exact ⟨⟨500, .json (errorBody failure)⟩, rfl, rfl⟩

/-- The request that posts a value to a place where a service can be. -/
theorem request_of_isAbsolute {address : String} {a : Http.Address} (j : Json)
    (hparse : Http.Address.parse address = .ok a) (habsolute : a.isAbsolute = true) :
    Http.Request.at .empty "POST" address (.ok j) = .ok ⟨"POST", a, .ok j⟩ := by
  have hupper : Text.upper "POST" = "POST" := by decide +kernel
  rw [Http.Request.at, hparse, hupper]
  show Except.ok (⟨_, Http.Address.empty.resolve a, _⟩ : Http.Request) = _
  rw [Http.Address.resolve, if_pos habsolute]

/-- What comes of posting a value is what is made of the response. -/
theorem runIn_post_of_response {transport : Http.Request → Act ω Http.Response} {address : String}
    {j : Json} {request : Http.Request} {r : Http.Response} {w w' : ω}
    (hrequest : Http.Request.at .empty "POST" address (.ok j) = .ok request)
    (habsolute : request.address.isAbsolute = true) (hj : j.isExpressible = true)
    (hresponse : (transport request).runIn w = (.ok r, w')) :
    (post transport address j).runIn w = (outcome r, w') := by
  unfold post
  rw [hrequest, hj]
  show (transport request >>= fun response => _).runIn w = _
  rw [Act.runIn_bind, hresponse]
  dsimp only
  rw [habsolute]
  exact Act.runIn_lift _ _

/-- A value that is posted has done there what was asked for, and what came of it is told. -/
theorem runIn_post {transport : Http.Request → Act (Service.State ω) Http.Response}
    {address path failure : String} {j : Json} {act : Act (Service.State ω) Json}
    {s : Service.State ω} (hreach : Reaches address path) (hj : j.isExpressible = true)
    (htransport : ∀ r : Http.Request, r.path = path → r.method = "POST" → r.body = .ok j →
      transport r = Service.answer failure act)
    (h : Bearable (act.runIn s).1) :
    (post transport (address ++ path) j).runIn s =
      (told failure (act.runIn s).1, (act.runIn s).2) := by
  obtain ⟨a, hparse, habsolute, htarget⟩ := hreach
  obtain ⟨response, hresponse, houtcome⟩ := runIn_answer failure h
  have hcarried := htransport ⟨"POST", a, .ok j⟩ htarget rfl rfl
  rw [← houtcome]
  exact runIn_post_of_response (request_of_isAbsolute j hparse habsolute) habsolute hj
    (hcarried ▸ hresponse)

end

/-! ## Names and times from two sources -/

/-- From here on, the two sources give the same up to what stands under some names. -/
structure Supplied (names : List String) (supply supply' : Supply)
    (s s' : Service.State Documents) : Prop where
  ids : ∀ k ∈ ["id", "messageId", "componentId"], ∀ n,
    k ∈ names ∨ Json.str (supply.id (s.ids + n)) = .str (supply'.id (s'.ids + n))
  times : ∀ n, "timestamp" ∈ names ∨
    Json.str (supply.time (s.times + n)) = .str (supply'.time (s'.times + n))

/-- The names under which there is what the service does not make up itself. -/
def suppliedNames : List String := ["id", "messageId", "componentId", "timestamp"]

theorem supplied_suppliedNames (supply supply' : Supply) (s s' : Service.State Documents) :
    Supplied suppliedNames supply supply' s s' where
  ids k hk _ := .inl (List.mem_append_left ["timestamp"] hk)
  times _ := .inl (by decide)

theorem supplied_same (supply : Supply) (s : Service.State Documents) :
    Supplied [] supply supply s s where
  ids _ _ _ := .inr rfl
  times _ := .inr rfl

/-- The tables of the two stores hold documents that agree, one by one. -/
def TablesAgree (names : List String) (s s' : Service.State Documents) : Prop :=
  ∀ name, List.Forall₂ (Document.AgreeBut names) (s.documents.table name) (s'.documents.table name)

section

variable {names : List String} {supply supply' : Supply} {s s' : Service.State Documents}

theorem TablesAgree.of_eq (names : List String) (h : s'.documents = s.documents) :
    TablesAgree names s s' := fun name => by
  rw [h]
  exact List.forall₂_same.mpr fun d _ => .refl names d

theorem TablesAgree.store (h : TablesAgree names s s') (table : String) {d d' : Document}
    (hd : d.AgreeBut names d') : TablesAgree names (s.store table d) (s'.store table d') := by
  intro name
  by_cases hname : name = .text table
  · subst hname
    rw [State.table_store_self, State.table_store_self]
    exact List.rel_append (h _) (.cons hd .nil)
  · rw [State.table_store_of_ne s hname, State.table_store_of_ne s' hname]
    exact h name

theorem agreeBut_userMessage (conversation user message : Json) {id id' time time' : String}
    (hid : "id" ∈ names ∨ Json.str id = .str id')
    (htime : "timestamp" ∈ names ∨ Json.str time = .str time') :
    (userMessage id conversation user message time).AgreeBut names
      (userMessage id' conversation user message time') := by
  rw [Document.AgreeBut, entries_userMessage, entries_userMessage]
  exact .cons ⟨rfl, hid.imp_right .inl⟩ (.cons ⟨rfl, .inr (.inl rfl)⟩ (.cons ⟨rfl, .inr (.inl rfl)⟩
    (.cons ⟨rfl, .inr (.inl rfl)⟩ (.cons ⟨rfl, .inr (.inl rfl)⟩
      (.cons ⟨rfl, htime.imp_right .inl⟩ .nil)))))

theorem agreeBut_agentMessage (conversation user : Json) (reply : Agent.Reply)
    {id id' time time' : String} (hid : "id" ∈ names ∨ Json.str id = .str id')
    (htime : "timestamp" ∈ names ∨ Json.str time = .str time') :
    (agentMessage id conversation user reply time).AgreeBut names
      (agentMessage id' conversation user reply time') := by
  rw [Document.AgreeBut, entries_agentMessage, entries_agentMessage]
  exact .cons ⟨rfl, hid.imp_right .inl⟩ (.cons ⟨rfl, .inr (.inl rfl)⟩ (.cons ⟨rfl, .inr (.inl rfl)⟩
    (.cons ⟨rfl, .inr (.inl rfl)⟩ (.cons ⟨rfl, .inr (.inl rfl)⟩
      (.cons ⟨rfl, htime.imp_right .inl⟩ (.cons ⟨rfl, .inr (.inl rfl)⟩ .nil))))))

theorem agreeBut_component (type user components : Json) {parameters parameters' : Json}
    {id id' time time' : String} (hid : "id" ∈ names ∨ Json.str id = .str id')
    (hparameters : parameters = parameters' ∨ parameters = .null ∧ parameters' = .obj [])
    (htime : "timestamp" ∈ names ∨ Json.str time = .str time') :
    (component id type user parameters components time).AgreeBut names
      (component id' type user parameters' components time') := by
  rw [Document.AgreeBut, entries_component, entries_component]
  exact .cons ⟨rfl, hid.imp_right .inl⟩ (.cons ⟨rfl, .inr (.inl rfl)⟩ (.cons ⟨rfl, .inr (.inl rfl)⟩
    (.cons ⟨rfl, .inr (hparameters.imp_right fun h => ⟨rfl, h⟩)⟩ (.cons ⟨rfl, .inr (.inl rfl)⟩
      (.cons ⟨rfl, htime.imp_right .inl⟩ .nil)))))

end

/-! ## The two clients -/

/-- What comes of a call at hand, and of the same call from outside. -/
inductive Outcomes (names : List String) (failure : String) :
    Except Fault Json → Except Fault Json → Prop where
  | returned {r r' : Json} (h : Json.AgreeBut names r r') : Outcomes names failure (.ok r) (.ok r')
  | refused (status : Int) (body : Json) :
      Outcomes names failure (.error (.refused status body)) (.error (.refused status body))
  | failed {f : Fault} (h : ∀ status body, f ≠ .refused status body) :
      Outcomes names failure (.error f) (.error (.refused 500 (.obj [("error", .str failure)])))

/-- Both calls come to the same, and leave the same behind. -/
structure Agreement (names : List String) (failure : String)
    (atHand remote : Except Fault Json × Service.State Documents) : Prop where
  outcome : Outcomes names failure atHand.1 remote.1
  documents : TablesAgree names atHand.2 remote.2

/-- Where both draw the same names and times, what comes of the one is what is told of the other. -/
theorem Outcomes.eq_told {failure : String} {atHand remote : Except Fault Json}
    (h : Outcomes [] failure atHand remote) : remote = told failure atHand := by
  cases h with
  | returned h => rw [Json.eq_of_agreeBut_nil h, told]
  | refused status body => rfl
  | @failed f hf =>
    cases f with
    | refused status body => exact absurd rfl (hf status body)
    | _ => rfl

theorem outcomes_error (names : List String) (failure : String) (f : Fault) :
    Outcomes names failure (.error f) (told failure (.error f)) := by
  cases f with
  | refused status body => exact .refused status body
  | _ => exact .failed nofun

theorem bearable_error {x : Except Fault Json} {f : Fault} (hf : NeverRefuses x)
    (hx : x = .error f) : Bearable (.error f) := by
  cases f with
  | refused status body => exact absurd hx (hf status body)
  | _ => trivial

theorem bearable_missingFields : Bearable (.error missingFields) :=
  ⟨by decide, by decide, by decide⟩

section

variable {supply supply' : Supply} {s s' : Service.State Documents} {names : List String}

theorem neverRefuses_historyLimit (settings : Settings) : NeverRefuses settings.historyLimit := by
  unfold Settings.historyLimit Settings.number
  split
  · exact .ok _
  · split
    · exact .ok _
    · split
      · exact .ok _
      · exact nofun

theorem process_agrees (settings : Settings) (hsupplied : Supplied names supply supply' s s')
    (hsame : TablesAgree names s s') (text conversation user : String) :
    let atHand := ((ofService (inMemory settings supply)).send (.str text) (.str conversation)
      (.str user)).runIn s
    let remote := ((ofService (inMemory settings supply')).send (.str text) (.str conversation)
      (.str user)).runIn s'
    Bearable remote.1 ∧ Agreement names processFailure atHand
      (told processFailure remote.1, remote.2) := by
  unfold ofService
  dsimp only
  rw [Act.runIn_return, Act.runIn_return]
  cases hgiven : (Json.str text).truthy && (Json.str conversation).truthy with
  | false =>
    rw [runIn_process_missing settings supply _ s hgiven,
      runIn_process_missing settings supply' _ s' hgiven]
    exact ⟨bearable_missingFields, outcomes_error .., hsame⟩
  | true =>
    rw [runIn_process settings supply _ s hgiven, runIn_process settings supply' _ s' hgiven]
    have hstored := hsame.store settings.messagesTable (agreeBut_userMessage (.str conversation)
      ((Json.str user).orElse anonymous) (.str text) (hsupplied.ids "id" (by decide) 0)
      (hsupplied.times 0))
    cases hlimit : settings.historyLimit with
    | error f =>
      have hnever : NeverRefuses (.error f : Except Fault Json) := fun status body h =>
        neverRefuses_historyLimit settings status body (hlimit.trans (by cases h; rfl))
      exact ⟨bearable_error hnever rfl, outcomes_error .., hstored⟩
    | ok limit =>
      have hreply : Agent.respondTo (.str text) = .ok (Agent.respond text) := rfl
      rw [hreply]
      obtain ⟨hexpressible, hshown⟩ := carried_metadata text
      refine ⟨⟨Json.isExpressible_obj.mpr ?_, shown_obj_iff.mpr ?_⟩, .returned (.obj ?_), ?_⟩
      · exact .cons rfl (.cons rfl (.cons hexpressible (.cons rfl .nil)))
      · simp only [List.forall_mem_cons]
        exact ⟨⟨rfl, rfl⟩, ⟨rfl, rfl⟩, ⟨rfl, hshown⟩, ⟨rfl, rfl⟩, List.forall_mem_nil _⟩
      · exact .cons ⟨rfl, hsupplied.ids "messageId" (by decide) 1⟩ (.cons ⟨rfl, .inr rfl⟩
          (.cons ⟨rfl, .inr rfl⟩ (.cons ⟨rfl, hsupplied.times 1⟩ .nil)))
      · exact hstored.store _ (agreeBut_agentMessage _ _ _ (hsupplied.ids "id" (by decide) 1)
          (hsupplied.times 1))

/-- The parameters that are sent where some or none are given. -/
theorem sent_parameters (parameters : Option (List (String × Json))) :
    ((parameters.map Json.obj).getD .null).orElse (.obj []) = .obj (parameters.getD []) := by
  cases parameters with
  | none => rfl
  | some ms => cases ms <;> rfl

theorem generate_agrees (settings : Settings) (hsupplied : Supplied names supply supply' s s')
    (hsame : TablesAgree names s s') (type user : String)
    (parameters : Option (List (String × Json)))
    (hexpressible : ∀ ms, parameters = some ms → (Json.obj ms).isExpressible = true)
    (hcarried : ∀ r, (((ofService (inMemory settings supply)).generate (.str type)
      ((parameters.map Json.obj).getD .null) (.str user)).runIn s).1 = .ok r → shown r = r) :
    let atHand := ((ofService (inMemory settings supply)).generate (.str type)
      ((parameters.map Json.obj).getD .null) (.str user)).runIn s
    let remote := ((ofService (inMemory settings supply')).generate (.str type)
      (.obj (parameters.getD [])) (.str user)).runIn s'
    Bearable remote.1 ∧ Agreement names generateFailure atHand
      (told generateFailure remote.1, remote.2) := by
  have hparameters := sent_parameters parameters
  have hmembers : Json.AllExpressible (parameters.getD []) := by
    cases parameters with
    | none => exact .nil
    | some ms => exact Json.isExpressible_obj.mp (hexpressible ms rfl)
  have hagain : (Json.obj (parameters.getD [])).orElse (.obj []) = .obj (parameters.getD []) :=
    sent_parameters (some (parameters.getD []))
  have hstored : (parameters.map Json.obj).getD .null = .obj (parameters.getD []) ∨
      (parameters.map Json.obj).getD .null = .null ∧ Json.obj (parameters.getD []) = .obj [] := by
    cases parameters with
    | none => exact .inr ⟨rfl, rfl⟩
    | some ms => exact .inl rfl
  unfold ofService at hcarried ⊢
  dsimp only at hcarried ⊢
  rw [Act.runIn_return] at hcarried ⊢
  rw [Act.runIn_return]
  cases hgiven : (Json.str type).truthy with
  | false =>
    rw [runIn_generate_missing settings supply _ _ s hgiven,
      runIn_generate_missing settings supply' _ _ s' hgiven]
    exact ⟨bearable_missingFields, outcomes_error .., hsame⟩
  | true =>
    rw [runIn_generate settings supply _ _ s hgiven, hparameters] at hcarried ⊢
    rw [runIn_generate settings supply' _ _ s' hgiven, hagain]
    have hnever := Build.neverRefuses_envelope (.str type) (parameters.getD [])
    cases hbuilt : Build.envelope (.str type) (.obj (parameters.getD [])) with
    | error f =>
      have hnever' : NeverRefuses (.error f : Except Fault Json) := hbuilt ▸ hnever
      exact ⟨bearable_error hnever' rfl, outcomes_error .., hsame⟩
    | ok components =>
      rw [hbuilt] at hcarried
      have hcomponents := Build.isExpressible_envelope hmembers hbuilt
      have hshown := shown_obj_iff.mp (hcarried _ rfl)
      simp only [List.forall_mem_cons] at hshown
      obtain ⟨-, -, ⟨-, hshown⟩, -⟩ := hshown
      refine ⟨⟨Json.isExpressible_obj.mpr ?_, shown_obj_iff.mpr ?_⟩, .returned (.obj ?_), ?_⟩
      · exact .cons rfl (.cons rfl (.cons hcomponents (.cons rfl .nil)))
      · simp only [List.forall_mem_cons]
        exact ⟨⟨rfl, rfl⟩, ⟨rfl, rfl⟩, ⟨rfl, hshown⟩, ⟨rfl, rfl⟩, List.forall_mem_nil _⟩
      · exact .cons ⟨rfl, hsupplied.ids "componentId" (by decide) 0⟩ (.cons ⟨rfl, .inr rfl⟩
          (.cons ⟨rfl, .inr rfl⟩ (.cons ⟨rfl, hsupplied.times 0⟩ .nil)))
      · exact hsame.store _ (agreeBut_component _ _ _ (hsupplied.ids "id" (by decide) 0) hstored
          (hsupplied.times 0))

end

/-! ## From outside -/

section

variable {ω : Type} (service : Service ω)

theorem handle_process {r : Http.Request} {members : List (String × Json)}
    (hpath : r.path = "/agent/process") (hmethod : r.method = "POST")
    (hbody : r.body = .ok (.obj members)) :
    service.handle r = Service.answer processFailure ((ofService service).send
      (Json.member members "message") (Json.member members "conversationId")
      (Json.member members "userId")) := by
  unfold Service.handle
  rw [hpath, hmethod, payload, hbody]
  rfl

theorem handle_generate {r : Http.Request} {members : List (String × Json)}
    (hpath : r.path = "/ui/generate") (hmethod : r.method = "POST")
    (hbody : r.body = .ok (.obj members)) :
    service.handle r = Service.answer generateFailure ((ofService service).generate
      (Json.member members "type") (Json.member members "parameters")
      (Json.member members "userId")) := by
  unfold Service.handle
  rw [hpath, hmethod, payload, hbody]
  rfl

end

variable {settings : Settings} {supply supply' : Supply} {s s' : Service.State Documents}
  {names : List String} {address : String}

theorem agreement_of_supplied (hprocess : Reaches address "/agent/process")
    (hgenerate : Reaches address "/ui/generate") (hsupplied : Supplied names supply supply' s s')
    (hsame : TablesAgree names s s') (call : Call) (hcall : call.IsExpressible)
    (hcarried : ∀ r, ((call.on (ofService (inMemory settings supply))).runIn s).1 = .ok r →
      shown r = r) :
    Agreement names call.failure ((call.on (ofService (inMemory settings supply))).runIn s)
      ((call.on (http address (inMemory settings supply').handle)).runIn s') := by
  cases call with
  | message text conversation user =>
    obtain ⟨hbearable, hagree⟩ := process_agrees settings hsupplied hsame text conversation user
    have hposted : (post (inMemory settings supply').handle (address ++ "/agent/process")
        (.obj [("message", .str text), ("conversationId", .str conversation),
          ("userId", .str user)])).runIn s' = _ :=
      runIn_post hprocess rfl (fun _ => handle_process _) hbearable
    show Agreement _ _ _ ((post _ _ _).runIn s')
    rw [hposted]
    exact hagree
  | interface type parameters user =>
    obtain ⟨hbearable, hagree⟩ :=
      generate_agrees settings hsupplied hsame type user parameters hcall hcarried
    have hbody : (Json.obj [("type", .str type), ("parameters", .obj (parameters.getD [])),
        ("userId", .str user)]).isExpressible = true := by
      refine Json.isExpressible_obj.mpr (.cons rfl (.cons ?_ (.cons rfl .nil)))
      cases parameters with
      | none => rfl
      | some ms => exact hcall ms rfl
    have hposted : (post (inMemory settings supply').handle (address ++ "/ui/generate")
        (.obj [("type", .str type), ("parameters", .obj (parameters.getD [])),
          ("userId", .str user)])).runIn s' = _ :=
      runIn_post hgenerate hbody (fun _ => handle_generate _) hbearable
    show Agreement _ _ _ ((post _ _ (.obj [_, ("parameters", Json.orElse _ _), _])).runIn s')
    rw [sent_parameters, hposted]
    exact hagree

/--
**It makes no difference which of the two clients is used.** From the same documents, both calls
answer the same, or refuse with the same body; any other failure is told outside by its route's
text. The documents are the same after either, also where a request failed half way. All this
holds up to names and times; if both sides draw the same, the one answers what is told of the other.
-/
theorem http_agrees (settings : Settings) (supply supply' : Supply) (s s' : Service.State Documents)
    (address : String) (hprocess : Reaches address "/agent/process")
    (hgenerate : Reaches address "/ui/generate") (hsame : s'.documents = s.documents) (call : Call)
    (hcall : call.IsExpressible)
    (hcarried : ∀ r, ((call.on (ofService (inMemory settings supply))).runIn s).1 = .ok r →
      shown r = r) :
    Agreement suppliedNames call.failure ((call.on (ofService (inMemory settings supply))).runIn s)
      ((call.on (http address (inMemory settings supply').handle)).runIn s') ∧
    (supply' = supply → s' = s →
      ((call.on (http address (inMemory settings supply').handle)).runIn s').1 =
        told call.failure ((call.on (ofService (inMemory settings supply))).runIn s).1 ∧
      TablesAgree [] ((call.on (ofService (inMemory settings supply))).runIn s).2
        ((call.on (http address (inMemory settings supply').handle)).runIn s').2) := by
  refine ⟨agreement_of_supplied hprocess hgenerate (supplied_suppliedNames ..) (.of_eq _ hsame) call
    hcall hcarried, ?_⟩
  rintro rfl rfl
  have hagree := agreement_of_supplied hprocess hgenerate (supplied_same ..) (.of_eq _ rfl) call
    hcall hcarried
  exact ⟨hagree.outcome.eq_told, hagree.documents⟩

/-- Where such a service is. -/
def nearby : String := "http://testserver"

theorem reaches_nearby : Reaches nearby "/agent/process" ∧ Reaches nearby "/ui/generate" :=
  ⟨⟨_, rfl, by decide +kernel, by decide +kernel⟩, ⟨_, rfl, by decide +kernel, by decide +kernel⟩⟩

/-- A chart of which nothing is given. -/
def plainChart : Call := .interface "chart" none "ada"

/-- The two sides count from different numbers, and both keep one chart. -/
theorem http_agrees_plainChart :
    Outcomes suppliedNames generateFailure
      ((plainChart.on (ofService (inMemory .default numbered))).runIn (State.new ∅)).1
      ((plainChart.on (http nearby (inMemory .default numbered).handle)).runIn ⟨∅, 3, 5⟩).1 ∧
    (((plainChart.on (http nearby (inMemory .default numbered).handle)).runIn
      ⟨∅, 3, 5⟩).2.documents.table (.text "high5-ui-components")).length = 1 := by
  have hcarried : ∀ r, ((plainChart.on (ofService (inMemory .default numbered))).runIn
      (State.new ∅)).1 = .ok r → shown r = r := by
    intro r hr
    obtain rfl := Except.ok.inj hr
    decide +kernel
  obtain ⟨⟨houtcome, hdocuments⟩, -⟩ := http_agrees .default numbered numbered (State.new ∅)
    ⟨∅, 3, 5⟩ nearby reaches_nearby.1 reaches_nearby.2 rfl plainChart nofun hcarried
  refine ⟨houtcome, ?_⟩
  rw [← (hdocuments _).length_eq]
  rfl

end Client

end AssistantUI
