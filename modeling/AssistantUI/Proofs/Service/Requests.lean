import AssistantUI.Proofs.Act
import AssistantUI.Service.Basic

/-!
# What a request leaves behind

A message goes into the store before it is answered. Between the two, the number of messages to
look up is read from the environment, and the message itself has to be a text; either can fail,
and by then it is too late to take the message back. A user interface is built first and stored
afterwards, so there the order is the other way round.

Both requests are run here once, from any state, over documents in memory: `runIn_process` and
`runIn_generate` say what is answered and what is in the store then. What is said elsewhere of one
request or of many goes back to these two.
-/

namespace AssistantUI

namespace Documents

theorem beq_text_of_ne {name : Key} {t : String} (h : name ≠ .text t) :
    (name == .text t) = false := by
  cases name with
  | text s =>
    rw [Key.text_beq_text, beq_eq_false_iff_ne]
    intro hst
    exact h (congrArg Key.text hst)
  | float x =>
    -- a number is never taken for a text, whole or not
    refine Bool.eq_false_iff.mpr fun hx => ?_
    have hidentity := Key.beq_iff.mp hx
    unfold Key.identity at hidentity
    dsimp only at hidentity
    split at hidentity
    all_goals cases hidentity
  | _ => exact Bool.eq_false_iff.mpr fun hx => by cases Key.beq_iff.mp hx

theorem table_put_self (s : Documents) (name : Key) (d : Document) :
    (s.put name d).table name = s.table name ++ [d] := by
  rw [table, put, Dict.get?_insert_self, Option.getD_some]

theorem table_put_of_ne (s : Documents) {name : Key} {t : String} (h : name ≠ .text t)
    (d : Document) : (s.put (.text t) d).table name = s.table name := by
  rw [table, put, Dict.get?_insert, beq_text_of_ne h]
  rfl

end Documents

namespace Service

/-! ## What is stored -/

theorem entries_userMessage (id : String) (conversation user message : Json) (time : String) :
    (userMessage id conversation user message time).entries =
      [("id", .str id), ("conversationId", conversation), ("userId", user), ("content", message),
        ("sender", .str "user"), ("timestamp", .str time)] := rfl

theorem entries_agentMessage (id : String) (conversation user : Json) (reply : Agent.Reply)
    (time : String) :
    (agentMessage id conversation user reply time).entries =
      [("id", .str id), ("conversationId", conversation), ("userId", user),
        ("content", .str reply.content), ("sender", .str "agent"), ("timestamp", .str time),
        ("metadata", reply.metadata)] := rfl

theorem entries_component (id : String) (type user parameters components : Json) (time : String) :
    (component id type user parameters components time).entries =
      [("id", .str id), ("type", type), ("userId", user), ("parameters", parameters),
        ("components", components), ("timestamp", .str time)] := rfl

/-- The service that keeps its documents in memory. -/
def inMemory (settings : Settings) (supply : Supply) : Service Documents :=
  ⟨Documents.storage, settings, supply⟩

/-- The state after a document was stored, for which a name and a time were drawn. -/
def State.store (s : State Documents) (table : String) (d : Document) : State Documents :=
  ⟨s.documents.put (.text table) d, s.ids + 1, s.times + 1⟩

theorem State.table_store_self (s : State Documents) (table : String) (d : Document) :
    (s.store table d).documents.table (.text table) = s.documents.table (.text table) ++ [d] :=
  Documents.table_put_self ..

theorem State.table_store_of_ne (s : State Documents) {name : Key} {table : String}
    (h : name ≠ .text table) (d : Document) :
    (s.store table d).documents.table name = s.documents.table name :=
  Documents.table_put_of_ne _ h d

/-! ## One request -/

section

variable (settings : Settings) (supply : Supply)

theorem runIn_process_missing {message conversation : Json} (user : Json) (s : State Documents)
    (h : (message.truthy && conversation.truthy) = false) :
    ((inMemory settings supply).process message conversation user).runIn s =
      (.error missingFields, s) := by
  unfold process
  rw [h]
  rfl

theorem runIn_process {message conversation : Json} (user : Json) (s : State Documents)
    (h : (message.truthy && conversation.truthy) = true) :
    ((inMemory settings supply).process message conversation user).runIn s =
      let stored := s.store settings.messagesTable (userMessage (supply.id s.ids) conversation
        (user.orElse anonymous) message (supply.time s.times))
      match settings.historyLimit, Agent.respondTo message with
      | .error f, _ => (.error f, stored)
      | .ok _, .error f => (.error f, stored)
      | .ok _, .ok reply =>
        (.ok ⟨supply.id stored.ids, reply.content, reply.metadata, supply.time stored.times⟩,
          stored.store settings.messagesTable (agentMessage (supply.id stored.ids) conversation
            (user.orElse anonymous) reply (supply.time stored.times))) := by
  unfold process history
  rw [h]
  generalize hstored : s.store settings.messagesTable _ = stored
  dsimp only [inMemory]
  generalize settings.historyLimit = limit
  generalize Agent.respondTo message = answer
  subst hstored
  cases limit with
  | error f => rfl
  | ok n =>
    cases answer with
    | error f => rfl
    | ok reply => rfl

theorem runIn_generate_missing {type : Json} (parameters user : Json) (s : State Documents)
    (h : type.truthy = false) :
    ((inMemory settings supply).generate type parameters user).runIn s =
      (.error missingFields, s) := by
  unfold generate
  rw [h]
  rfl

theorem runIn_generate {type : Json} (parameters user : Json) (s : State Documents)
    (h : type.truthy = true) :
    ((inMemory settings supply).generate type parameters user).runIn s =
      match Build.envelope type (parameters.orElse (.obj [])) with
      | .error f => (.error f, s)
      | .ok components =>
        (.ok ⟨supply.id s.ids, type, components, supply.time s.times⟩,
          s.store settings.componentsTable (component (supply.id s.ids) type
            (user.orElse anonymous) parameters components (supply.time s.times))) := by
  unfold generate
  rw [h]
  generalize Build.envelope type (parameters.orElse (.obj [])) = built
  cases built with
  | error f => rfl
  | ok components => rfl

end

/-! ## Requests that fail -/

/--
**A message that is not answered may stay behind.** If one of the two fields is not given, the
request is refused and nothing is stored. If both are, the message is already the last one in its
table, and the failure is that of the environment or that of a message which is no text; no other
table is touched.
-/
theorem failure_leaves_message (settings : Settings) (supply : Supply)
    (message conversation user : Json) (s s' : State Documents) (f : Fault)
    (h : ((inMemory settings supply).process message conversation user).runIn s = (.error f, s')) :
    (message.truthy && conversation.truthy) = false ∧
        f = .refused 400 (.obj [("error", .str "Missing required fields")]) ∧
        s'.documents = s.documents ∨
      (message.truthy && conversation.truthy) = true ∧
        (settings.historyLimit = .error f ∨
          (∀ text, message ≠ .str text) ∧ f = .onAttribute message "lower") ∧
        (∃ left : Document,
          s'.documents.table (.text settings.messagesTable) =
            s.documents.table (.text settings.messagesTable) ++ [left] ∧
          left.entries = [("id", .str (supply.id s.ids)), ("conversationId", conversation),
            ("userId", user.orElse (.str "anonymous")), ("content", message),
            ("sender", .str "user"), ("timestamp", .str (supply.time s.times))]) ∧
        ∀ name, name ≠ .text settings.messagesTable →
          s'.documents.table name = s.documents.table name := by
  cases hgiven : message.truthy && conversation.truthy with
  | false =>
    rw [runIn_process_missing settings supply user s hgiven] at h
    obtain ⟨hf, rfl⟩ := Prod.mk.inj h
    exact .inl ⟨rfl, (Except.error.inj hf).symm, rfl⟩
  | true =>
    rw [runIn_process settings supply user s hgiven] at h
    refine .inr ⟨rfl, ?_⟩
    -- in both cases the state is the one with the message in it
    cases hlimit : settings.historyLimit with
    | error g =>
      rw [hlimit] at h
      obtain ⟨hf, rfl⟩ := Prod.mk.inj h
      obtain rfl := Except.error.inj hf
      refine ⟨.inl rfl, ⟨_, State.table_store_self .., entries_userMessage ..⟩,
        fun name hname => ?_⟩
      exact State.table_store_of_ne _ hname _
    | ok limit =>
      cases hanswer : Agent.respondTo message with
      | ok reply =>
        rw [hlimit, hanswer] at h
        cases (Prod.mk.inj h).1
      | error g =>
        rw [hlimit, hanswer] at h
        obtain ⟨hf, rfl⟩ := Prod.mk.inj h
        obtain rfl := Except.error.inj hf
        have hnone : ∀ text, message ≠ .str text := by
          intro text htext
          rw [htext] at hanswer
          cases hanswer
        have hfault : g = .onAttribute message "lower" := by
          cases message with
          | str text => exact absurd rfl (hnone text)
          | _ => exact (Except.error.inj hanswer).symm
        refine ⟨.inr ⟨hnone, hfault⟩, ⟨_, State.table_store_self .., entries_userMessage ..⟩,
          fun name hname => ?_⟩
        exact State.table_store_of_ne _ hname _

/-- An environment in which the number of messages to look up is none. -/
def misconfigured : Settings := Settings.default.put "HIGH5_HISTORY_LIMIT" "ten"

theorem historyLimit_misconfigured : misconfigured.historyLimit =
    .error (.setting "HIGH5_HISTORY_LIMIT must be an integer, got 'ten'") := by rfl

/-- Names and times that are all different. -/
def numbered : Supply := ⟨fun n => "id-" ++ toString n, fun n => "t" ++ toString n⟩

theorem runIn_process_misconfigured :
    ((inMemory misconfigured numbered).process (.str "hello") (.str "c1") .null).runIn
      (State.new ∅) =
    (.error (.setting "HIGH5_HISTORY_LIMIT must be an integer, got 'ten'"),
      (State.new ∅).store misconfigured.messagesTable
        (userMessage "id-0" (.str "c1") (.str "anonymous") (.str "hello") "t0")) := by
  have hgiven : ((Json.str "hello").truthy && (Json.str "c1").truthy) = true := by decide
  rw [runIn_process misconfigured numbered .null (State.new ∅) hgiven, historyLimit_misconfigured]
  rfl

/-- What is left of a greeting there. -/
theorem failure_leaves_message_misconfigured : ∃ f s',
    ((inMemory misconfigured numbered).process (.str "hello") (.str "c1") .null).runIn
      (State.new ∅) = (.error f, s') ∧
    misconfigured.historyLimit = .error f ∧
    ∃ left : Document, s'.documents.table (.text "high5-messages") = [left] ∧
      left.entries = [("id", .str "id-0"), ("conversationId", .str "c1"),
        ("userId", .str "anonymous"), ("content", .str "hello"), ("sender", .str "user"),
        ("timestamp", .str "t0")] := by
  have hrun := runIn_process_misconfigured
  refine ⟨_, _, hrun, historyLimit_misconfigured, ?_⟩
  rcases failure_leaves_message _ _ _ _ _ _ _ _ hrun with ⟨hmissing, -⟩ | ⟨-, -, hmessages, -⟩
  · cases hmissing
  · exact hmessages

/-- A request that fails need not leave the store as it was. -/
theorem not_failure_leaves_nothing :
    ¬ ∀ (settings : Settings) (supply : Supply) (message conversation user : Json)
      (s s' : State Documents) (f : Fault),
      ((inMemory settings supply).process message conversation user).runIn s = (.error f, s') →
        ∀ name, s'.documents.table name = s.documents.table name := by
  intro hatomic
  have hsame := hatomic _ _ _ _ _ _ _ _ runIn_process_misconfigured
    (.text misconfigured.messagesTable)
  rw [State.table_store_self] at hsame
  exact List.cons_ne_nil _ _ hsame

end Service

end AssistantUI
