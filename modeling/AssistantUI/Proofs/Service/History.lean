import AssistantUI.Proofs.Service.Requests

/-!
# What a run of requests leaves in the store

A request adds to two tables at most and takes nothing away. `Effect` says what a single one can
come to, and with which state; every invariant of a run is a property of that relation, carried
along the list of requests. A request that adds nothing is no exception to any of them.

Conversations share one table, so that a message is told from those of other conversations by the
attribute that names its own.
-/

namespace AssistantUI.Service

/-! ## Runs of requests -/

/-- A request, made directly: the answer to a text, or a user interface. -/
inductive Errand where
  | message (text conversation : String) (user : Json)
      (text_ne : text ≠ "") (conversation_ne : conversation ≠ "")
  | interface (type parameters user : Json)

/-- What the service answers to either. -/
inductive Answer where
  | processed (p : Processed)
  | generated (g : Generated)

section

variable {ω : Type} (service : Service ω)

/-- Carries out a request. -/
def carryOut : Errand → Act (State ω) Answer
  | .message text conversation user _ _ =>
    .processed <$> service.process (.str text) (.str conversation) user
  | .interface type parameters user => .generated <$> service.generate type parameters user

/-- Carries out one request after the other, also after one that failed. -/
def runAll : List Errand → State ω → List (Except Fault Answer) × State ω
  | [], s => ([], s)
  | r :: rest, s =>
    let (answer, s) := (service.carryOut r).runIn s
    let (answers, s) := runAll rest s
    (answer :: answers, s)

/-- The state after the first so many of some requests. -/
def moment (requests : List Errand) (s : State ω) (n : Nat) : State ω :=
  (service.runAll (requests.take n) s).2

theorem runAll_cons (r : Errand) (rest : List Errand) (s : State ω) :
    service.runAll (r :: rest) s =
      (((service.carryOut r).runIn s).1 :: (service.runAll rest ((service.carryOut r).runIn s).2).1,
        (service.runAll rest ((service.carryOut r).runIn s).2).2) := rfl

theorem moment_cons_succ (r : Errand) (rest : List Errand) (s : State ω) (n : Nat) :
    service.moment (r :: rest) s (n + 1) =
      service.moment rest ((service.carryOut r).runIn s).2 n := by
  rw [moment, List.take_succ_cons, runAll_cons, moment]

theorem moment_length (requests : List Errand) (s : State ω) :
    service.moment requests s requests.length = (service.runAll requests s).2 := by
  rw [moment, List.take_length]

theorem length_runAll (requests : List Errand) (s : State ω) :
    (service.runAll requests s).1.length = requests.length := by
  induction requests generalizing s with
  | nil => rfl
  | cons r rest ih => rw [runAll_cons, List.length_cons, ih, List.length_cons]

end

/-! ## Tables of the service -/

/-- The messages in the store, in the order in which they came. -/
def State.messages (settings : Settings) (s : State Documents) : List Document :=
  s.documents.table (.text settings.messagesTable)

/-- The user interfaces in the store, in the order in which they came. -/
def State.components (settings : Settings) (s : State Documents) : List Document :=
  s.documents.table (.text settings.componentsTable)

/-- The messages of a conversation. -/
def State.conversation (settings : Settings) (s : State Documents) (conversation : String) :
    List Document :=
  (s.messages settings).filter fun d =>
    Json.alike ((d.get? "conversationId").getD .null) (.str conversation)

theorem messagesTable_ne_componentsTable (settings : Settings) :
    settings.messagesTable ≠ settings.componentsTable := by
  intro h
  have hrest := congrArg String.toList h
  rw [Settings.messagesTable, Settings.componentsTable, String.toList_append,
    String.toList_append] at hrest
  exact absurd (List.append_cancel_left hrest) (by decide)

theorem State.messages_store (settings : Settings) (s : State Documents) (d : Document) :
    (s.store settings.messagesTable d).messages settings = s.messages settings ++ [d] :=
  table_store_self ..

theorem State.components_store (settings : Settings) (s : State Documents) (d : Document) :
    (s.store settings.componentsTable d).components settings = s.components settings ++ [d] :=
  table_store_self ..

theorem State.messages_store_component (settings : Settings) (s : State Documents) (d : Document) :
    (s.store settings.componentsTable d).messages settings = s.messages settings :=
  table_store_of_ne s (fun h => messagesTable_ne_componentsTable settings (Key.text.inj h)) d

theorem State.components_store_message (settings : Settings) (s : State Documents) (d : Document) :
    (s.store settings.messagesTable d).components settings = s.components settings :=
  table_store_of_ne s (fun h => messagesTable_ne_componentsTable settings (Key.text.inj h).symm) d

/-- Storing a document leaves the others in place, in whichever table. -/
theorem State.table_prefix_store (s : State Documents) (table : String) (d : Document)
    (name : Key) :
    s.documents.table name <+: (s.store table d).documents.table name := by
  by_cases h : name = .text table
  · subst h
    rw [table_store_self]
    exact List.prefix_append ..
  · exact ⟨[], by rw [List.append_nil, table_store_of_ne s h]⟩

/-! ## What one request can come to -/

/-- The answer to a request, and the state that it leaves behind. -/
inductive Effect (settings : Settings) (supply : Supply) (s : State Documents) :
    Errand → Except Fault Answer → State Documents → Prop where
  | answered (text conversation : String) (user : Json) (ht : text ≠ "") (hc : conversation ≠ "")
      (p : Processed) (hcontent : p.content = (Agent.respond text).content)
      (hmetadata : p.metadata = (Agent.respond text).metadata) :
      Effect settings supply s (.message text conversation user ht hc) (.ok (.processed p))
        ((s.store settings.messagesTable
            (userMessage (supply.id s.ids) (.str conversation) (user.orElse anonymous) (.str text)
              (supply.time s.times))).store settings.messagesTable
          (agentMessage p.messageId (.str conversation) (user.orElse anonymous)
            (Agent.respond text) p.timestamp))
  | built (type parameters user : Json) (g : Generated) (hgiven : type.truthy = true)
      (htype : g.type = type)
      (hbuilt : Build.envelope type (parameters.orElse (.obj [])) = .ok g.components) :
      Effect settings supply s (.interface type parameters user) (.ok (.generated g))
        (s.store settings.componentsTable
          (component g.componentId type (user.orElse anonymous) parameters g.components
            g.timestamp))
  | failed (type parameters user : Json) (f : Fault)
      (hfailed : type.truthy = false ∨
        Build.envelope type (parameters.orElse (.obj [])) = .error f) :
      Effect settings supply s (.interface type parameters user) (.error f) s

variable {settings : Settings} {supply : Supply}

theorem runIn_map {ω α β : Type} (g : α → β) (a : Act ω α) (w : ω) :
    (g <$> a).runIn w = ((a.runIn w).1.map g, (a.runIn w).2) := by
  rw [map_eq_pure_bind, Act.runIn_bind]
  cases a.runIn w with
  | mk r w' => cases r <;> rfl

theorem str_truthy {t : String} (h : t ≠ "") : (Json.str t).truthy = true := by
  rw [Json.truthy, bne_iff_ne]
  exact h

theorem effect_carryOut (supply : Supply) {limit : Int}
    (hlimit : settings.historyLimit = .ok limit) (r : Errand) (s : State Documents) :
    Effect settings supply s r (((inMemory settings supply).carryOut r).runIn s).1
      (((inMemory settings supply).carryOut r).runIn s).2 := by
  cases r with
  | message text conversation user ht hc =>
    have hgiven : ((Json.str text).truthy && (Json.str conversation).truthy) = true := by
      rw [str_truthy ht, str_truthy hc]
      rfl
    rw [carryOut, runIn_map, runIn_process settings supply user s hgiven, hlimit]
    exact .answered text conversation user ht hc _ rfl rfl
  | interface type parameters user =>
    rw [carryOut, runIn_map]
    cases htype : type.truthy with
    | false =>
      rw [runIn_generate_missing settings supply parameters user s htype]
      exact .failed type parameters user _ (.inl htype)
    | true =>
      rw [runIn_generate settings supply parameters user s htype]
      cases hbuilt : Build.envelope type (parameters.orElse (.obj [])) with
      | error f => exact .failed type parameters user f (.inr hbuilt)
      | ok components =>
        exact .built type parameters user ⟨_, type, components, _⟩ htype rfl hbuilt

/-! ## What each of them keeps -/

/-- What a message says: where, by whom, what, in whose name, and what goes along with it. -/
structure Line where
  conversation : Json
  sender : Json
  content : Json
  user : Json
  metadata : Json
  deriving DecidableEq

/-- What the document of a message says; the user's come without anything that goes along. -/
def lineOf (d : Document) : Line :=
  ⟨d.value (.text "conversationId"), d.value (.text "sender"), d.value (.text "content"),
    d.value (.text "userId"), d.value (.text "metadata")⟩

theorem lineOf_userMessage (id : String) (conversation user message : Json) (time : String) :
    lineOf (userMessage id conversation user message time) =
      ⟨conversation, .str "user", message, user, .null⟩ := by
  unfold lineOf Document.value Dict.get?
  rw [entries_userMessage]
  rfl

theorem lineOf_agentMessage (id : String) (conversation user : Json) (reply : Agent.Reply)
    (time : String) :
    lineOf (agentMessage id conversation user reply time) =
      ⟨conversation, .str "agent", .str reply.content, user, reply.metadata⟩ := by
  unfold lineOf Document.value Dict.get?
  rw [entries_agentMessage]
  rfl

/-- The two messages of a request: the user's, and the agent's. -/
def Errand.lines : Errand → List Line
  | .message text conversation user _ _ =>
    [⟨.str conversation, .str "user", .str text, user.orElse (.str "anonymous"), .null⟩,
      ⟨.str conversation, .str "agent", .str (Agent.respond text).content,
        user.orElse (.str "anonymous"), (Agent.respond text).metadata⟩]
  | .interface .. => []

/-- Is the request a message of a conversation? -/
def Errand.isOf (conversation : String) : Errand → Bool
  | .message _ c _ _ _ => c == conversation
  | .interface .. => false

/-- The members of the document that a request adds to the user interfaces, by its answer. -/
def Errand.built? : Errand → Except Fault Answer → Option (List (String × Json))
  | .interface _ parameters user, .ok (.generated g) =>
    some [("id", .str g.componentId), ("type", g.type), ("userId", user.orElse (.str "anonymous")),
      ("parameters", parameters), ("components", g.components), ("timestamp", .str g.timestamp)]
  | _, _ => none

/-- The messages of a conversation are those of the requests that belong to it. -/
theorem filter_lines (conversation : String) (requests : List Errand) :
    (requests.flatMap Errand.lines).filter (fun l => l.conversation.alike (.str conversation)) =
      (requests.filter (Errand.isOf conversation)).flatMap Errand.lines := by
  induction requests with
  | nil => rfl
  | cons r rest ih =>
    rw [List.flatMap_cons, List.filter_append, ih, List.filter_cons]
    cases r with
    | interface type parameters user => rfl
    | message text c user ht hc =>
      have halike : (Json.str c).alike (.str conversation) = (c == conversation) := by
        rw [Json.alike]
      -- either both lines stay, or neither does
      by_cases hof : (c == conversation) = true
      · simp [Errand.lines, Errand.isOf, halike, hof]
      · simp [Errand.lines, Errand.isOf, halike, hof]

namespace Effect

variable {s s' : State Documents} {r : Errand} {a : Except Fault Answer}

/-- The messages get the two of the request, if it is one. -/
theorem messages (h : Effect settings supply s r a s') :
    ∃ added, s'.messages settings = s.messages settings ++ added ∧ added.map lineOf = r.lines := by
  cases h with
  | answered text c user ht hc p hcontent hmetadata =>
    rw [State.messages_store, State.messages_store, List.append_assoc]
    refine ⟨_, rfl, ?_⟩
    rw [List.singleton_append, List.map_cons, List.map_cons, lineOf_userMessage,
      lineOf_agentMessage]
    rfl
  | built type parameters user g hgiven htype hbuilt =>
    rw [State.messages_store_component]
    exact ⟨[], (List.append_nil _).symm, rfl⟩
  | failed type parameters user f hfailed => exact ⟨[], (List.append_nil _).symm, rfl⟩

/-- The user interfaces get the one that was built, if one was. -/
theorem components (h : Effect settings supply s r a s') :
    ∃ added, s'.components settings = s.components settings ++ added ∧
      added.map Dict.entries = (r.built? a).toList := by
  cases h with
  | answered text c user ht hc p hcontent hmetadata =>
    rw [State.components_store_message, State.components_store_message]
    exact ⟨[], (List.append_nil _).symm, rfl⟩
  | built type parameters user g hgiven htype hbuilt =>
    subst htype
    refine ⟨_, State.components_store .., ?_⟩
    rw [List.map_singleton, entries_component]
    rfl
  | failed type parameters user f hfailed => exact ⟨[], (List.append_nil _).symm, rfl⟩

theorem table_prefix (h : Effect settings supply s r a s') (name : Key) :
    s.documents.table name <+: s'.documents.table name := by
  cases h with
  | answered => exact (s.table_prefix_store ..).trans (State.table_prefix_store ..)
  | built => exact s.table_prefix_store ..
  | failed => exact List.prefix_rfl

theorem table_of_ne (h : Effect settings supply s r a s') {name : Key}
    (hmessages : name ≠ .text settings.messagesTable)
    (hcomponents : name ≠ .text settings.componentsTable) :
    s'.documents.table name = s.documents.table name := by
  cases h with
  | answered => rw [State.table_store_of_ne _ hmessages, State.table_store_of_ne _ hmessages]
  | built => exact State.table_store_of_ne _ hcomponents _
  | failed => rfl

end Effect

/-! ## Runs -/

section

variable (supply) {limit : Int} (hlimit : settings.historyLimit = .ok limit)

include hlimit

/-- Every request of a run comes to one of the things that a request can come to. -/
theorem effect_moment (s : State Documents) {requests : List Errand} {n : Nat} {r : Errand}
    (hr : requests[n]? = some r) : ∃ a,
    ((inMemory settings supply).runAll requests s).1[n]? = some a ∧
      Effect settings supply ((inMemory settings supply).moment requests s n) r a
        ((inMemory settings supply).moment requests s (n + 1)) := by
  induction requests generalizing s n with
  | nil => cases hr
  | cons r₀ rest ih =>
    have heffect := effect_carryOut supply hlimit r₀ s
    rw [runAll_cons, moment_cons_succ]
    cases n with
    | zero =>
      obtain rfl : r₀ = r := Option.some.inj hr
      exact ⟨_, rfl, heffect⟩
    | succ n =>
      rw [moment_cons_succ]
      exact ih _ hr

theorem messages_runAll (requests : List Errand) (s : State Documents) : ∃ added,
    (((inMemory settings supply).runAll requests s).2).messages settings =
        s.messages settings ++ added ∧
      added.map lineOf = requests.flatMap Errand.lines := by
  induction requests generalizing s with
  | nil => exact ⟨[], (List.append_nil _).symm, rfl⟩
  | cons r rest ih =>
    have heffect := effect_carryOut supply hlimit r s
    obtain ⟨first, hfirst, hfirstLines⟩ := heffect.messages
    obtain ⟨others, hothers, hothersLines⟩ :=
      ih (((inMemory settings supply).carryOut r).runIn s).2
    refine ⟨first ++ others, ?_, ?_⟩
    · rw [runAll_cons, hothers, hfirst, List.append_assoc]
    · rw [List.map_append, hfirstLines, hothersLines, List.flatMap_cons]

theorem conversation_runAll (requests : List Errand) (s : State Documents)
    (conversation : String) : ∃ added,
    (((inMemory settings supply).runAll requests s).2).conversation settings conversation =
        s.conversation settings conversation ++ added ∧
      added.map lineOf = (requests.filter (Errand.isOf conversation)).flatMap Errand.lines := by
  obtain ⟨added, hadded, hlines⟩ := messages_runAll supply hlimit requests s
  refine ⟨added.filter fun d =>
    Json.alike ((d.get? "conversationId").getD .null) (.str conversation), ?_, ?_⟩
  · rw [State.conversation, hadded, List.filter_append, State.conversation]
  · -- whether a message belongs to the conversation can be told from what it says
    rw [← filter_lines, ← hlines, List.filter_map]
    rfl

theorem components_runAll (requests : List Errand) (s : State Documents) : ∃ added,
    (((inMemory settings supply).runAll requests s).2).components settings =
        s.components settings ++ added ∧
      added.map Dict.entries =
        (requests.zip ((inMemory settings supply).runAll requests s).1).filterMap
          fun e => e.1.built? e.2 := by
  induction requests generalizing s with
  | nil => exact ⟨[], (List.append_nil _).symm, rfl⟩
  | cons r rest ih =>
    obtain ⟨first, hfirst, hfirstEntries⟩ := (effect_carryOut supply hlimit r s).components
    obtain ⟨others, hothers, hothersEntries⟩ :=
      ih (((inMemory settings supply).carryOut r).runIn s).2
    refine ⟨first ++ others, ?_, ?_⟩
    · rw [runAll_cons, hothers, hfirst, List.append_assoc]
    · rw [List.map_append, hfirstEntries, hothersEntries, runAll_cons, List.zip_cons_cons,
        List.filterMap_cons]
      -- the answer to the first request decides whether it counts
      cases r.built? (((inMemory settings supply).carryOut r).runIn s).1 <;> rfl

/-- From one moment to a later one, tables only grow at their ends. -/
theorem table_prefix_moment (requests : List Errand) (s : State Documents) (name : Key)
    {m n : Nat} (hmn : m ≤ n) :
    ((inMemory settings supply).moment requests s m).documents.table name <+:
      ((inMemory settings supply).moment requests s n).documents.table name := by
  induction hmn with
  | refl => exact List.prefix_rfl
  | @step n hmn ih =>
    cases hr : requests[n]? with
    | some r =>
      obtain ⟨a, -, heffect⟩ := effect_moment supply hlimit s hr
      exact ih.trans (heffect.table_prefix name)
    | none =>
      -- all requests have been carried out by then
      have hn := List.getElem?_eq_none_iff.mp hr
      have hsame : requests.take (n + 1) = requests.take n := by
        rw [List.take_of_length_le hn, List.take_of_length_le (Nat.le_succ_of_le hn)]
      unfold moment at ih ⊢
      rw [hsame]
      exact ih

theorem table_runAll_of_ne (requests : List Errand) (s : State Documents) {name : Key}
    (hmessages : name ≠ .text settings.messagesTable)
    (hcomponents : name ≠ .text settings.componentsTable) :
    (((inMemory settings supply).runAll requests s).2).documents.table name =
      s.documents.table name := by
  induction requests generalizing s with
  | nil => rfl
  | cons r rest ih =>
    rw [runAll_cons, ih]
    exact (effect_carryOut supply hlimit r s).table_of_ne hmessages hcomponents

end

/-- What is true of the store during and after a run of requests. -/
structure Faithful (settings : Settings) (supply : Supply) (requests : List Errand)
    (s : State Documents) (answers : List (Except Fault Answer)) (s' : State Documents) : Prop where
  /-- Every request is answered. -/
  answered : answers.length = requests.length
  /-- The messages are those of the requests, in their order, and no others. -/
  messages : ∃ added, s'.messages settings = s.messages settings ++ added ∧
    added.map lineOf = requests.flatMap Errand.lines
  /-- A conversation gets the pairs of its own requests, in their order, and nothing else. -/
  conversations : ∀ conversation, ∃ added,
    s'.conversation settings conversation = s.conversation settings conversation ++ added ∧
      added.map lineOf = (requests.filter (Errand.isOf conversation)).flatMap Errand.lines
  /-- There is one new user interface for every request that built one, with what it answered. -/
  interfaces : ∃ added, s'.components settings = s.components settings ++ added ∧
    added.map Dict.entries = (requests.zip answers).filterMap fun e => e.1.built? e.2
  /-- A message is answered, by the document that is the last one of its table then. -/
  identified : ∀ n text conversation user ht hc,
    requests[n]? = some (.message text conversation user ht hc) → ∃ p d,
      answers[n]? = some (.ok (.processed p)) ∧
      p.content = (Agent.respond text).content ∧ p.metadata = (Agent.respond text).metadata ∧
      (((inMemory settings supply).moment requests s (n + 1)).messages settings).getLast? =
        some d ∧
      d.entries = [("id", .str p.messageId), ("conversationId", .str conversation),
        ("userId", user.orElse (.str "anonymous")), ("content", .str (Agent.respond text).content),
        ("sender", .str "agent"), ("timestamp", .str p.timestamp),
        ("metadata", (Agent.respond text).metadata)]
  /-- A user interface is answered as it is built, and only what cannot be built is not. -/
  generated : ∀ (n : Nat) (type parameters user : Json),
    requests[n]? = some (.interface type parameters user) →
    (∃ g, answers[n]? = some (.ok (.generated g)) ∧ type.truthy = true ∧ g.type = type ∧
      Build.envelope type (parameters.orElse (.obj [])) = .ok g.components) ∨
    ∃ f, answers[n]? = some (.error f) ∧
      (type.truthy = false ∨ Build.envelope type (parameters.orElse (.obj [])) = .error f)
  /-- A request that fails leaves the store as it was. -/
  failed : ∀ n f, answers[n]? = some (.error f) →
    ((inMemory settings supply).moment requests s (n + 1)).documents =
      ((inMemory settings supply).moment requests s n).documents
  /-- What is in a table at one moment is there, in the same places, ever after. -/
  lasting : ∀ n ≤ requests.length, ∀ m ≤ n, ∀ name,
    ((inMemory settings supply).moment requests s m).documents.table name <+:
      ((inMemory settings supply).moment requests s n).documents.table name
  /-- The last moment is the end of the run. -/
  ended : (inMemory settings supply).moment requests s requests.length = s'
  /-- No other table is written to. -/
  untouched : ∀ name, name ≠ .text settings.messagesTable →
    name ≠ .text settings.componentsTable → s'.documents.table name = s.documents.table name

/--
**The store is a faithful record of any run of requests.** Conversations do not mix, whatever else
is asked for in between, and a user interface that could not be built leaves no trace.
-/
theorem runAll_faithful (settings : Settings) (supply : Supply) (limit : Int)
    (hlimit : settings.historyLimit = .ok limit) (requests : List Errand) (s : State Documents) :
    Faithful settings supply requests s ((inMemory settings supply).runAll requests s).1
      ((inMemory settings supply).runAll requests s).2 where
  answered := length_runAll ..
  messages := messages_runAll supply hlimit requests s
  conversations := conversation_runAll supply hlimit requests s
  interfaces := components_runAll supply hlimit requests s
  identified := by
    intro n text conversation user ht hc hr
    obtain ⟨a, ha, heffect⟩ := effect_moment supply hlimit s hr
    generalize (inMemory settings supply).moment requests s (n + 1) = s₁ at heffect ⊢
    cases heffect with
    | answered _ _ _ _ _ p hcontent hmetadata =>
      refine ⟨p, _, ha, hcontent, hmetadata, ?_, entries_agentMessage ..⟩
      rw [State.messages_store, List.getLast?_concat]
      rfl
  generated := by
    intro n type parameters user hr
    obtain ⟨a, ha, heffect⟩ := effect_moment supply hlimit s hr
    generalize (inMemory settings supply).moment requests s (n + 1) = s₁ at heffect
    cases heffect with
    | built _ _ _ g hgiven htype hbuilt => exact .inl ⟨g, ha, hgiven, htype, hbuilt⟩
    | failed _ _ _ f hfailed => exact .inr ⟨f, ha, hfailed⟩
  failed := by
    intro n f hf
    have hn : n < requests.length := by
      rw [← length_runAll (inMemory settings supply) requests s]
      exact (List.getElem?_eq_some_iff.mp hf).1
    obtain ⟨a, ha, heffect⟩ :=
      effect_moment supply hlimit s (List.getElem?_eq_getElem hn)
    obtain rfl : Except.error f = a := Option.some.inj (hf.symm.trans ha)
    generalize (inMemory settings supply).moment requests s (n + 1) = s₁ at heffect ⊢
    generalize requests[n] = r at heffect
    cases heffect
    rfl
  lasting := fun n _ m hmn name => table_prefix_moment supply hlimit requests s name hmn
  ended := moment_length ..
  untouched := fun _ => table_runAll_of_ne supply hlimit requests s

/-- Two conversations at once, and a user interface that cannot be built between them. -/
def crossed : List Errand :=
  [.message "hello" "c1" .null (by decide) (by decide),
    .message "make a form" "c2" (.str "ada") (by decide) (by decide),
    .interface (.str "nothing like it") .null .null,
    .message "help" "c1" (.str "") (by decide) (by decide),
    .interface (.str "table") .null (.str "ada")]

/-- What was said in one of the two. -/
theorem runAll_faithful_crossed :
    Settings.default.historyLimit = .ok 10 ∧
    ((((inMemory .default numbered).runAll crossed (State.new ∅)).2).conversation .default "c1").map
        lineOf =
      [⟨.str "c1", .str "user", .str "hello", .str "anonymous", .null⟩,
        ⟨.str "c1", .str "agent", .str (Agent.respond "hello").content, .str "anonymous",
          (Agent.respond "hello").metadata⟩,
        ⟨.str "c1", .str "user", .str "help", .str "anonymous", .null⟩,
        ⟨.str "c1", .str "agent", .str (Agent.respond "help").content, .str "anonymous",
          (Agent.respond "help").metadata⟩] := by
  have hlimit : Settings.default.historyLimit = .ok 10 := rfl
  obtain ⟨added, hadded, hlines⟩ :=
    (runAll_faithful .default numbered 10 hlimit crossed (State.new ∅)).conversations "c1"
  have hnone : (State.new (∅ : Documents)).conversation .default "c1" = [] := rfl
  refine ⟨hlimit, ?_⟩
  rw [hadded, hnone, List.nil_append, hlines]
  rfl

end AssistantUI.Service
