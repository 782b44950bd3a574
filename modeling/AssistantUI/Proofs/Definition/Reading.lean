import AssistantUI.Proofs.Dict
import AssistantUI.Proofs.DistinctKeys

/-!
# What reading yields

Reading is tolerant, so a value says less about the node that is read from it than one
might hope: parts may have been left out, and issues say where. What can be said of every
node that was read is collected here, in two properties.

* It is **readable**: no part of it lies below the greatest depth, and none of its updates
  would be taken for something else when it is written and read again.
* The issues about unknown actions, which are the only ones that leave everything in place,
  are exactly those that the node itself shows, `unknownActions`, in the same order.

The other issues are about parts that are no longer there.
-/

namespace AssistantUI

/-! ## Results with issues -/

namespace Parse

variable {α β : Type}

theorem bind_ok {p : Parse α} {f : α → Parse β} {a : α} {b : β} {is js : List Issue}
    (hp : p = .ok (a, is)) (hf : f a = .ok (b, js)) : (p >>= f) = .ok (b, is ++ js) := by
  show Parse.bind p f = _
  rw [hp, Parse.bind, hf]

/-- A result of two steps is made of a result of each. -/
theorem of_bind_ok {p : Parse α} {f : α → Parse β} {b : β} {ks : List Issue}
    (h : (p >>= f) = .ok (b, ks)) :
    ∃ a is js, p = .ok (a, is) ∧ f a = .ok (b, js) ∧ ks = is ++ js := by
  change Parse.bind p f = _ at h
  unfold Parse.bind at h
  split at h
  · exact absurd h (by simp)
  · rename_i a is
    split at h
    · exact absurd h (by simp)
    · rename_i b' js hf
      obtain ⟨rfl, rfl⟩ := Prod.mk.inj (Except.ok.inj h)
      exact ⟨a, is, js, rfl, hf, rfl⟩

theorem of_pure_ok {a b : α} {is : List Issue} (h : (pure a : Parse α) = .ok (b, is)) :
    a = b ∧ is = [] := by
  obtain ⟨rfl, rfl⟩ := Prod.mk.inj (Except.ok.inj h)
  exact ⟨rfl, rfl⟩

/-- A part that is left out leaves an issue and nothing else. -/
theorem of_report_ok {i : Issue} {a b : α} {is : List Issue}
    (h : (report i >>= fun _ => (pure a : Parse α)) = .ok (b, is)) : a = b ∧ is = [i] := by
  obtain ⟨_, js, ks, hp, hf, rfl⟩ := of_bind_ok h
  obtain ⟨rfl, rfl⟩ := Prod.mk.inj (Except.ok.inj hp)
  obtain ⟨rfl, rfl⟩ := of_pure_ok hf
  exact ⟨rfl, rfl⟩

end Parse

/-- Is the issue about an action that means nothing? -/
def Issue.isActionUnknown : Issue → Bool
  | actionUnknown .. => true
  | _ => false

theorem head?_append {s t : String} {c : Char} (h : s.toList.head? = some c) :
    (s ++ t).toList.head? = some c := by
  simp [h]

/-- Among the issues about events it is the one that is worded so. -/
theorem Issue.isActionUnknown_iff (i : Issue) : i.isActionUnknown = true ↔
    i.code = "event.descriptor" ∧
      ∃ action, i.message = "Unrecognized action " ++ Json.quoted action ++ " is a no-op" := by
  constructor
  · intro h
    cases i with
    | actionUnknown pos action => exact ⟨rfl, action, rfl⟩
    | _ => exact absurd h (by simp [isActionUnknown])
  · rintro ⟨hcode, action, h⟩
    -- the other wordings about events start with another letter
    have hhead : i.message.toList.head? = some 'U' := by
      rw [h]
      exact head?_append (head?_append rfl)
    have other (s : String) {c : Char} (hs : i.message = s) (hc : s.toList.head? = some c)
        (hne : c ≠ 'U') : i.isActionUnknown = true := by
      rw [hs, hc] at hhead
      exact absurd (Option.some.inj hhead) hne
    cases i with
    | actionUnknown pos action => rfl
    | descriptorNotObject pos kind => exact other _ rfl (head?_append rfl) (by decide : 'E' ≠ 'U')
    | actionNotText pos action => exact other _ rfl (head?_append rfl) (by decide : 'I' ≠ 'U')
    | updatesNotObject pos =>
      exact other "Ignoring non-object stateUpdates" rfl rfl (by decide : 'I' ≠ 'U')
    | eventNameNotText pos =>
      exact other "Ignoring non-string emitEvent" rfl rfl (by decide : 'I' ≠ 'U')
    | dataNotObject pos => exact other "Ignoring non-object data" rfl rfl (by decide : 'I' ≠ 'U')
    | _ => exact absurd hcode (by simp [code])

/-! ## Updates -/

/-- Written and read again, the value is the same. -/
def UpdateValue.Readable (v : UpdateValue) : Prop := UpdateValue.ofJson v.toJson = .ok v

theorem UpdateValue.readable_field (ref : TemplateRef) : (field ref).Readable := by
  cases ref <;> rfl

theorem UpdateValue.readable_of_ofJson {j : Json} {v : UpdateValue}
    (h : UpdateValue.ofJson j = .ok v) : v.Readable := by
  cases v with
  | field ref => exact readable_field ref
  | const j' =>
    -- a value that is kept as it is was not taken for anything else
    have hj : j' = j := by
      unfold UpdateValue.ofJson at h
      split at h
      · split at h <;> simp_all
      · split at h <;> simp_all
      · simp at h
      · simp at h
      · simpa using h.symm
    subst hj
    exact h

/-! ## Events -/

namespace EventDescriptor

/-- Written and read again, all updates of the event are the same. -/
def Readable (d : EventDescriptor) : Prop :=
  ∀ u, d.updates = some u → ∀ e ∈ u.entries, e.2.Readable

/-- The issue about the action of an event at a position, if it means nothing. -/
def unknownAction (pos : Position) (d : EventDescriptor) : List Issue :=
  match d.action with
  | some a => if knownAction a then [] else [.actionUnknown pos a]
  | none => []

/-- Reading an action leaves one issue about an unknown action, or none. -/
theorem unknown_of_parseAction {pos : Position} {j : Json} {action : Option String}
    {is : List Issue} (h : parseAction pos j = .ok (action, is)) {d : EventDescriptor}
    (hd : d.action = action) : is.filter Issue.isActionUnknown = d.unknownAction pos := by
  unfold unknownAction
  rw [hd]
  unfold parseAction at h
  split at h
  · obtain ⟨rfl, rfl⟩ := Parse.of_pure_ok h
    rfl
  · rename_i s
    by_cases hs : knownAction s = true
    · rw [if_pos hs] at h
      obtain ⟨rfl, rfl⟩ := Parse.of_pure_ok h
      simp [hs]
    · rw [if_neg hs] at h
      obtain ⟨rfl, rfl⟩ := Parse.of_report_ok h
      simp [hs, Issue.isActionUnknown]
  · obtain ⟨rfl, rfl⟩ := Parse.of_report_ok h
    rfl

theorem readable_of_parseUpdateEntries {members : List (String × Json)}
    {entries : List (String × UpdateValue)} (h : parseUpdateEntries members = .ok entries) :
    ∀ v ∈ entries.map Prod.snd, v.Readable := by
  induction members generalizing entries with
  | nil =>
    obtain rfl := Except.ok.inj h
    exact fun v hv => absurd hv (by simp)
  | cons e rest ih =>
    obtain ⟨k, j⟩ := e
    rw [parseUpdateEntries] at h
    cases hv : UpdateValue.ofJson j with
    | error f => rw [hv] at h; exact absurd h (by simp [bind, Except.bind])
    | ok v =>
      cases hvs : parseUpdateEntries rest with
      | error f => rw [hv, hvs] at h; exact absurd h (by simp [bind, Except.bind])
      | ok vs =>
        rw [hv, hvs] at h
        obtain rfl := Except.ok.inj h
        intro w hw
        rcases List.mem_cons.mp hw with rfl | hw
        · exact UpdateValue.readable_of_ofJson hv
        · exact ih hvs w hw

theorem readable_of_parseUpdates {pos : Position} {j : Json}
    {updates : Option (Dict String UpdateValue)} {is : List Issue}
    (h : parseUpdates pos j = .ok (updates, is)) :
    (∀ u, updates = some u → ∀ e ∈ u.entries, e.2.Readable) ∧
      is.filter Issue.isActionUnknown = [] := by
  unfold parseUpdates at h
  split at h
  · obtain ⟨rfl, rfl⟩ := Parse.of_pure_ok h
    exact ⟨by simp, rfl⟩
  · rename_i members
    split at h
    · rename_i entries hentries
      obtain ⟨rfl, rfl⟩ := Parse.of_pure_ok h
      refine ⟨fun u hu e he => ?_, rfl⟩
      obtain rfl := Option.some.inj hu
      exact readable_of_parseUpdateEntries hentries e.2 (Dict.value_of_mem_ofList he)
    · exact absurd h (by simp [Parse.fail])
  · obtain ⟨rfl, rfl⟩ := Parse.of_report_ok h
    exact ⟨by simp, rfl⟩

theorem quiet_of_parseEmits {pos : Position} {j : Json} {emits : Option String}
    {is : List Issue} (h : parseEmits pos j = .ok (emits, is)) :
    is.filter Issue.isActionUnknown = [] := by
  unfold parseEmits at h
  split at h
  · obtain ⟨-, rfl⟩ := Parse.of_pure_ok h; rfl
  · obtain ⟨-, rfl⟩ := Parse.of_pure_ok h; rfl
  · obtain ⟨-, rfl⟩ := Parse.of_report_ok h; rfl

theorem quiet_of_parseData {pos : Position} {j : Json} {data : Option (Dict String Json)}
    {is : List Issue} (h : parseData pos j = .ok (data, is)) :
    is.filter Issue.isActionUnknown = [] := by
  unfold parseData at h
  split at h
  · obtain ⟨-, rfl⟩ := Parse.of_pure_ok h; rfl
  · obtain ⟨-, rfl⟩ := Parse.of_pure_ok h; rfl
  · obtain ⟨-, rfl⟩ := Parse.of_report_ok h; rfl

/-- What reading an event leaves, if it is kept and if it is not. -/
theorem readable_of_parse {pos : Position} {j : Json} {d? : Option EventDescriptor}
    {is : List Issue} (h : parse pos j = .ok (d?, is)) :
    (∀ d, d? = some d → d.Readable) ∧
      is.filter Issue.isActionUnknown = (d?.map (unknownAction pos)).getD [] := by
  unfold parse at h
  split at h
  · obtain ⟨action, is₁, js₁, h₁, k₁, rfl⟩ := Parse.of_bind_ok h
    obtain ⟨updates, is₂, js₂, h₂, k₂, rfl⟩ := Parse.of_bind_ok k₁
    obtain ⟨emits, is₃, js₃, h₃, k₃, rfl⟩ := Parse.of_bind_ok k₂
    obtain ⟨data, is₄, js₄, h₄, k₄, rfl⟩ := Parse.of_bind_ok k₃
    obtain ⟨rfl, rfl⟩ := Parse.of_pure_ok k₄
    obtain ⟨hread, hq₂⟩ := readable_of_parseUpdates h₂
    refine ⟨fun d hd => ?_, ?_⟩
    · obtain rfl := Option.some.inj hd
      exact hread
    · simp only [List.filter_append, hq₂, quiet_of_parseEmits h₃, quiet_of_parseData h₄,
        List.append_nil]
      exact unknown_of_parseAction h₁ rfl
  · obtain ⟨rfl, rfl⟩ := Parse.of_report_ok h
    exact ⟨by simp, rfl⟩

/-- What reading the events of the node at `base` leaves. -/
theorem readable_of_parseEvents {base : Position} {members : List (String × Json)}
    {ds : List (String × EventDescriptor)} {is : List Issue}
    (h : parseEvents base members = .ok (ds, is)) :
    (ds.map Prod.fst).Sublist (members.map Prod.fst) ∧ (∀ e ∈ ds, e.2.Readable) ∧
      is.filter Issue.isActionUnknown =
        ds.flatMap fun e => e.2.unknownAction (base.under e.1) := by
  induction members generalizing ds is with
  | nil =>
    obtain ⟨rfl, rfl⟩ := Parse.of_pure_ok h
    exact ⟨.slnil, by simp, rfl⟩
  | cons m rest ih =>
    obtain ⟨name, j⟩ := m
    rw [parseEvents] at h
    obtain ⟨d?, is₁, js₁, h₁, k₁, rfl⟩ := Parse.of_bind_ok h
    obtain ⟨ds', is₂, js₂, h₂, k₂, rfl⟩ := Parse.of_bind_ok k₁
    obtain ⟨hread, hunknown⟩ := readable_of_parse h₁
    obtain ⟨hsub, hreads, hunknowns⟩ := ih h₂
    obtain ⟨rfl, rfl⟩ := Parse.of_pure_ok k₂
    -- an event that is no object is dropped, and takes its name with it
    cases d? with
    | none =>
      refine ⟨hsub.cons name, hreads, ?_⟩
      simp [hunknown, hunknowns]
    | some d =>
      refine ⟨hsub.cons_cons name, ?_, ?_⟩
      · intro e he
        rcases List.mem_cons.mp he with rfl | he
        · exact hread d rfl
        · exact hreads e he
      · simp [hunknown, hunknowns]

end EventDescriptor

/-! ## Nodes and contents -/

/-- The issues about unknown actions among the events of the node at a position. -/
def Node.ownUnknownActions (pos : Position) (n : Node) : List Issue :=
  n.events.entries.flatMap fun e => e.2.unknownAction (pos.under e.1)

mutual

/-- Can the node be read back, if its children are read at this depth? -/
def Node.Readable (depth : Int) (n : Node) : Prop :=
  match n with
  | ⟨_, _, children, events, _⟩ =>
    (∀ e ∈ events.entries, e.2.Readable) ∧ Content.Readable depth children

/-- Can the content be read back at this depth? -/
def Content.Readable (depth : Int) (c : Content) : Prop :=
  match c with
  | .empty => True
  | .text _ => True
  | .single n => depth ≤ maxDepth ∧ Node.Readable (depth + 1) n
  | .many items => depth ≤ maxDepth ∧ Content.AllReadable (depth + 1) items

/-- Can all contents of a list be read back at this depth? -/
def Content.AllReadable (depth : Int) (cs : List Content) : Prop :=
  match cs with
  | [] => True
  | c :: rest => Content.Readable depth c ∧ Content.AllReadable depth rest

end

mutual

/--
The issues about unknown actions that a node at a position shows, in the order in which reading
meets them. An only child stands at the position of its parent here.
-/
def Node.unknownActions (pos : Position) (n : Node) : List Issue :=
  match n with
  | ⟨type, props, children, events, bindings⟩ =>
    Node.ownUnknownActions pos ⟨type, props, children, events, bindings⟩ ++
      Content.unknownActions pos children

/-- The issues about unknown actions that a content at a position shows. -/
def Content.unknownActions (pos : Position) (c : Content) : List Issue :=
  match c with
  | .empty => []
  | .text _ => []
  | .single n => Node.unknownActions pos n
  | .many items => Content.unknownActionsOfList pos 0 items

/-- The issues about unknown actions that the items under a position show, numbered from `i`. -/
def Content.unknownActionsOfList (pos : Position) (i : Nat) (cs : List Content) : List Issue :=
  match cs with
  | [] => []
  | c :: rest =>
    Content.unknownActions (pos.item i) c ++ Content.unknownActionsOfList pos (i + 1) rest

end

/--
What reading a node leaves, beside its children: they were read, its events can be read back,
and of its own issues those about unknown actions are the ones it shows.
-/
theorem Node.readable_of_parseWith {pos : Position} {members : List (String × Json)}
    {children : Parse Content} {n : Node} {is : List Issue}
    (hd : Json.membersHaveDistinctKeys members = true)
    (h : Node.parseWith pos members children = .ok (n, is)) :
    ∃ js, children = .ok (n.children, js) ∧ (∀ e ∈ n.events.entries, e.2.Readable) ∧
      is.filter Issue.isActionUnknown =
        n.ownUnknownActions pos ++ js.filter Issue.isActionUnknown := by
  unfold Node.parseWith at h
  obtain ⟨type, is₁, js₁, h₁, k₁, rfl⟩ := Parse.of_bind_ok h
  obtain ⟨events, is₂, js₂, h₂, k₂, rfl⟩ := Parse.of_bind_ok k₁
  obtain ⟨content, js, js₃, h₃, k₃, rfl⟩ := Parse.of_bind_ok k₂
  obtain ⟨rfl, rfl⟩ := Parse.of_pure_ok k₃
  obtain ⟨hsub, hreads, hunknowns⟩ := EventDescriptor.readable_of_parseEvents h₂
  -- no event is read twice, so all that were read are kept
  have hentries : (Dict.ofList events).entries = events :=
    Dict.entries_ofList_of_nodup
      (hsub.nodup (Json.nodup_membersOrNone (Json.hasDistinctKeys_member hd "events")))
  have htype : is₁.filter Issue.isActionUnknown = [] := by
    unfold Node.parseType at h₁
    split at h₁
    · obtain ⟨-, rfl⟩ := Parse.of_pure_ok h₁; rfl
    · obtain ⟨-, rfl⟩ := Parse.of_report_ok h₁; rfl
  refine ⟨js, h₃, ?_, ?_⟩
  · intro e he
    rw [hentries] at he
    exact hreads e he
  · simp [List.filter_append, htype, hunknowns, Node.ownUnknownActions, hentries]

/-- The same of a node whose children are known to be readable, all of it together. -/
theorem Node.unknownActions_of_parseWith {pos : Position} {members : List (String × Json)}
    {children : Parse Content} {n : Node} {depth : Int} {is : List Issue}
    (hd : Json.membersHaveDistinctKeys members = true)
    (hc : ∀ c js, children = .ok (c, js) →
      c.Readable depth ∧ js.filter Issue.isActionUnknown = c.unknownActions pos)
    (h : Node.parseWith pos members children = .ok (n, is)) :
    n.Readable depth ∧ is.filter Issue.isActionUnknown = n.unknownActions pos := by
  obtain ⟨js, hchildren, hreads, hfilter⟩ := Node.readable_of_parseWith hd h
  obtain ⟨hread, hunknown⟩ := hc _ _ hchildren
  obtain ⟨type, props, content, events, bindings⟩ := n
  refine ⟨⟨hreads, hread⟩, ?_⟩
  rw [hfilter, hunknown]
  rfl

mutual

/-- What reading content leaves. -/
theorem Content.readable_of_parse (raw : Json) {depth : Int} {pos : Position} {c : Content}
    {is : List Issue} (hd : raw.hasDistinctKeys = true)
    (h : Content.parse depth pos raw = .ok (c, is)) :
    c.Readable depth ∧ is.filter Issue.isActionUnknown = c.unknownActions pos := by
  match raw with
  | .null | .bool _ | .int _ | .float _ | .str _ =>
    obtain ⟨rfl, rfl⟩ := Parse.of_pure_ok h
    exact ⟨trivial, rfl⟩
  | .obj members =>
    obtain ⟨-, hms⟩ := Json.hasDistinctKeys_obj.mp hd
    rw [Content.parse] at h
    split at h
    · -- too deep: nothing is left that could be read back
      obtain ⟨rfl, rfl⟩ := Parse.of_report_ok h
      exact ⟨trivial, rfl⟩
    · obtain ⟨n, is₁, js₁, h₁, k₁, rfl⟩ := Parse.of_bind_ok h
      obtain ⟨rfl, rfl⟩ := Parse.of_pure_ok k₁
      obtain ⟨hread, hunknown⟩ := Node.unknownActions_of_parseWith hms
        (fun c js hc => Content.readable_of_parseChildren members hms hc) h₁
      refine ⟨⟨by omega, hread⟩, ?_⟩
      rw [List.append_nil, hunknown]
      rfl
  | .arr items =>
    rw [Content.parse] at h
    split at h
    · obtain ⟨rfl, rfl⟩ := Parse.of_report_ok h
      exact ⟨trivial, rfl⟩
    · obtain ⟨cs, is₁, js₁, h₁, k₁, rfl⟩ := Parse.of_bind_ok h
      obtain ⟨rfl, rfl⟩ := Parse.of_pure_ok k₁
      obtain ⟨hread, hunknown⟩ := Content.readable_of_parseItems items hd h₁
      refine ⟨⟨by omega, hread⟩, ?_⟩
      rw [List.append_nil, hunknown]
      rfl

/-- What reading the children among members leaves. -/
theorem Content.readable_of_parseChildren (members : List (String × Json)) {depth : Int}
    {pos : Position} {c : Content} {is : List Issue}
    (hd : Json.membersHaveDistinctKeys members = true)
    (h : Content.parseChildren depth pos members = .ok (c, is)) :
    c.Readable depth ∧ is.filter Issue.isActionUnknown = c.unknownActions pos := by
  match members with
  | [] =>
    obtain ⟨rfl, rfl⟩ := Parse.of_pure_ok h
    exact ⟨trivial, rfl⟩
  | (k, j) :: rest =>
    obtain ⟨hj, hrest⟩ := Json.membersHaveDistinctKeys_cons.mp hd
    rw [Content.parseChildren] at h
    split at h
    · exact Content.readable_of_parse j hj h
    · exact Content.readable_of_parseChildren rest hrest h

/-- What reading items leaves. -/
theorem Content.readable_of_parseItems (items : List Json) {depth : Int} {pos : Position}
    {i : Nat} {cs : List Content} {is : List Issue} (hd : Json.haveDistinctKeys items = true)
    (h : Content.parseItems depth pos i items = .ok (cs, is)) :
    Content.AllReadable depth cs ∧
      is.filter Issue.isActionUnknown = Content.unknownActionsOfList pos i cs := by
  match items with
  | [] =>
    obtain ⟨rfl, rfl⟩ := Parse.of_pure_ok h
    exact ⟨trivial, rfl⟩
  | j :: rest =>
    obtain ⟨hj, hrest⟩ := Json.haveDistinctKeys_cons.mp hd
    rw [Content.parseItems] at h
    obtain ⟨c, is₁, js₁, h₁, k₁, rfl⟩ := Parse.of_bind_ok h
    obtain ⟨cs', is₂, js₂, h₂, k₂, rfl⟩ := Parse.of_bind_ok k₁
    obtain ⟨rfl, rfl⟩ := Parse.of_pure_ok k₂
    obtain ⟨hread, hunknown⟩ := Content.readable_of_parse j hj h₁
    obtain ⟨hreads, hunknowns⟩ := Content.readable_of_parseItems rest hrest h₂
    refine ⟨⟨hread, hreads⟩, ?_⟩
    rw [List.append_nil, List.filter_append, hunknown, hunknowns]
    rfl

end

end AssistantUI
