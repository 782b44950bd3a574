import AssistantUI.Proofs.Chat.Mounted

/-!
# What the user sees while answers come in

Messages can be on their way when a conversation is begun. Nothing calls their exchanges back: an
exchange knows which message it sends, but not the conversation that it was begun in, and what it
says when its answer arrives is said in the conversation of that time. What is shown there it
replaces, too.

So what the user sees, the `Page` of a chat, can be told from what happens alone, without the
session: a message adds what it says, an answer has the effect that `Request.effect` reads off it,
whenever it arrives, and a conversation starts the page over. `page_run` says that this is all,
however the exchanges overlap.
-/

namespace AssistantUI.Chat

/-! ## Pages -/

/-- What a user sees of a chat. -/
@[ext]
structure Page where
  /-- What was said in the present conversation, and by whom. -/
  said : List (Sender × Json)
  /-- What is mounted; something can be mounted from which nothing could be read. -/
  shown : Option (Option Definition)

/-- What the user sees of a session. -/
def page (s : Session Chat) : Page where
  said := s.host.messages.map fun m => (m.sender, m.content)
  shown := s.currentMount.map Mount.definition

/-- The page of a conversation that was just begun. -/
def Page.new : Page := ⟨[(.agent, .str welcomeText)], none⟩

/-- What is said is put behind what was said before. -/
def Page.say (p : Page) (sender : Sender) (content : Json) : Page :=
  { p with said := p.said ++ [(sender, content)] }

/-! ## Effects of answers -/

/-- What an answer does to what is shown. -/
inductive Turnover where
  | keep
  | clear
  | mount (definition : Option Definition)

/-- What an answer does to a page. -/
structure Effect where
  /-- What is said in the name of the agent. -/
  said : List Json
  shown : Turnover

/-- What is shown afterwards. -/
def Turnover.on (shown : Option (Option Definition)) : Turnover → Option (Option Definition)
  | keep => shown
  | clear => none
  | mount definition => some definition

def Effect.on (e : Effect) (p : Page) : Page :=
  ⟨p.said ++ e.said.map fun content => (.agent, content), e.shown.on p.shown⟩

/-- The effect of an answer to the request for a user interface. -/
def interfaceEffect : Except Fault Json → Effect
  | .error _ => ⟨[.str generateError], .keep⟩
  | .ok (.obj members) =>
    let components := Mountable.json (Json.member members "components")
    if components.isNull then ⟨[], .clear⟩
    else match components.parse with
      | .error _ => ⟨[.str sendError], .clear⟩
      | .ok (definition, _) => ⟨[], .mount definition⟩
  | .ok _ => ⟨[.str sendError], .keep⟩

/-- The effect of a reply with this content, by what was sent along with it. -/
def contentEffect (content : Json) : Json → Effect
  | .obj extras =>
    if Json.member extras "suggestedAction" = .str Agent.suggestedAction then
      match interfaceRequest ((Json.member extras "parameters").orElse (.obj [])) with
      -- there is more to come
      | .ok _ => ⟨[content], .keep⟩
      | .error _ => ⟨[content, .str generateError], .keep⟩
    else ⟨[content], .clear⟩
  | _ => ⟨[content, .str sendError], .keep⟩

/-- The effect of an answer to the request for a reply. -/
def replyEffect : Except Fault Json → Effect
  | .ok (.obj members) =>
    match Dict.find "content" members with
    | none => ⟨[.str sendError], .keep⟩
    | some content => contentEffect content ((Json.member members "metadata").orElse (.obj []))
  | _ => ⟨[.str sendError], .keep⟩

/-- The effect of an answer, whenever it arrives. -/
def Request.effect : Request → Except Fault Json → Effect
  | .reply .. => replyEffect
  | .interface .. => interfaceEffect

/-! ## Pages and sessions -/

variable {names : Names}

/-- How far messages have come is not on the page. -/
theorem page_deliver (s : Session Chat) (number : Nat) (d : Delivery) :
    page (remember (fun c => c.deliver number d) s) = page s := by
  refine congrArg (Page.mk · _) ((List.map_map ..).trans (List.map_congr_left fun m _ => ?_))
  show (Message.sender (ite ..), Message.content (ite ..)) = _
  split <;> rfl

theorem page_add (s : Session Chat) (m : Message) :
    page (remember (fun c => c.add m) s) = (page s).say m.sender m.content :=
  congrArg (Page.mk · _) List.map_append

theorem page_tell (names : Names) (s : Session Chat) (text : String) :
    page (remember (fun c => c.tell names text) s) = (page s).say .agent (.str text) :=
  page_add s _

theorem page_unmount (s : Session Chat) : page s.unmount = { page s with shown := none } := by
  unfold page
  rw [Session.currentMount_unmount, Session.host_unmount]
  rfl

theorem page_start (s : Session Chat) (m : Mount) :
    page (s.start m) = { page s with shown := some m.definition } := by
  unfold page
  rw [Session.currentMount_start]
  rfl

theorem page_finish (number : Nat) (failed : Bool) (s : Session Chat) :
    page (Exchange.finish names number failed s).2 =
      if failed then (page s).say .agent (.str sendError) else page s := by
  cases failed with
  | false => rfl
  | true =>
    have htold := page_tell names (remember (fun c => c.deliver number .failed) s) sendError
    rw [page_deliver] at htold
    exact htold

/-- Where something can be mounted, it replaces what is shown, and else nothing is shown. -/
theorem page_mounted (number : Nat) (members : List (String × Json)) (s : Session Chat) :
    page (Exchange.shown names number (.ok (.obj members)) s).2 =
      (interfaceEffect (.ok (.obj members))).on (page s) := by
  have hrun : (showInterface names (.ok (.obj members))).runIn s =
      Session.mount (host names) (.json (Json.member members "components")) s := rfl
  unfold Exchange.shown interfaceEffect
  rw [hrun]
  dsimp only
  generalize Mountable.json (Json.member members "components") = what
  by_cases hnull : what.isNull = true
  · rw [Session.mount_of_null _ s hnull, if_pos hnull]
    dsimp only
    rw [page_finish, page_unmount, Effect.on, List.map_nil, List.append_nil]
    rfl
  · rw [if_neg hnull]
    rw [Bool.not_eq_true] at hnull
    cases hparse : what.parse with
    | error f =>
      rw [Session.mount_of_error _ s hnull hparse]
      dsimp only
      rw [page_finish, page_unmount]
      rfl
    | ok r =>
      rw [Session.mount_of_ok _ s hnull hparse]
      dsimp only
      rw [page_finish, page_start, page_unmount, Effect.on, List.map_nil, List.append_nil]
      rfl

theorem page_shown (number : Nat) (answer : Except Fault Json) (s : Session Chat) :
    page (Exchange.shown names number answer s).2 = (interfaceEffect answer).on (page s) := by
  cases answer with
  | error f =>
    show page (Exchange.finish names number false (remember (fun c => c.tell names _) s)).2 = _
    rw [page_finish, page_tell]
    rfl
  | ok j =>
    cases j with
    | obj members => exact page_mounted number members s
    | _ => exact page_finish number true s

/-- What a reply says is said first, whatever comes of what was sent along with it. -/
theorem page_content (number : Nat) {members : List (String × Json)} {content : Json}
    (h : Dict.find "content" members = some content) (s : Session Chat) :
    page (Exchange.reply names number (.ok (.obj members)) s).2 =
      (contentEffect content ((Json.member members "metadata").orElse (.obj []))).on (page s) := by
  unfold Exchange.reply
  rw [runIn_takeReply_some h]
  have hsaid : page (remember (fun c => c.add (c.replyMessage names members content))
      (remember (fun c => c.deliver number .sent) s)) = (page s).say .agent content :=
    (page_add _ _).trans (congrArg (Page.say · _ _) (page_deliver s number .sent))
  generalize (Json.member members "metadata").orElse (.obj []) = metadata
  generalize remember (fun c => c.add (c.replyMessage names members content))
    (remember (fun c => c.deliver number .sent) s) = s' at hsaid
  cases metadata with
  | obj extras =>
    have hrun : (afterReply (.obj extras)).runIn s' =
        if Json.member extras "suggestedAction" = .str Agent.suggestedAction then
          (.ok (some ((Json.member extras "parameters").orElse (.obj []))), s')
        else (.ok none, s'.unmount) := by
      show ((if _ then _ else _ : Act (Session Chat) (Option Json)).runIn s') = _
      split <;> rfl
    rw [hrun, contentEffect]
    by_cases hsuggested : Json.member extras "suggestedAction" = .str Agent.suggestedAction
    · rw [if_pos hsuggested, if_pos hsuggested]
      dsimp only
      cases interfaceRequest ((Json.member extras "parameters").orElse (.obj [])) with
      | ok request => exact hsaid
      | error f =>
        show page (Exchange.shown names number (.error f) s').2 = _
        rw [page_shown, hsaid]
        exact Page.ext (List.append_assoc ..) rfl
    · rw [if_neg hsuggested, if_neg hsuggested]
      show page (Exchange.finish names number false s'.unmount).2 = _
      rw [page_finish, page_unmount, hsaid]
      rfl
  | _ =>
    show page (Exchange.finish names number true s').2 = _
    rw [page_finish, hsaid]
    exact Page.ext (List.append_assoc ..) rfl

theorem page_reply (number : Nat) (answer : Except Fault Json) (s : Session Chat) :
    page (Exchange.reply names number answer s).2 = (replyEffect answer).on (page s) := by
  have hrefused : page (Exchange.finish names number true
      (remember (fun c => c.deliver number .sent) s)).2 = (page s).say .agent (.str sendError) := by
    rw [page_finish, page_deliver]
    rfl
  cases answer with
  | error f => exact page_finish number true s
  | ok j =>
    cases j with
    | obj members =>
      cases hcontent : Dict.find "content" members with
      | none =>
        unfold Exchange.reply replyEffect
        rw [runIn_takeReply_none hcontent]
        dsimp only
        rw [hcontent]
        exact hrefused
      | some content =>
        rw [page_content number hcontent]
        unfold replyEffect
        dsimp only
        rw [hcontent]
    | _ => exact hrefused

theorem page_resume (names : Names) (answer : Except Fault Json) (w : Waiting) (s : Session Chat) :
    page (w.resume names answer s).2 = (w.request.effect answer).on (page s) := by
  unfold Waiting.resume Request.effect
  cases w.request with
  | reply => exact page_reply w.number answer s
  | interface => exact page_shown w.number answer s

/-! ## Pages and moves -/

namespace Overlap

/-- What a move does to a page. -/
def turn (o : Overlap) (p : Page) : Move → Page
  | .send content => p.say .user content
  | .answer i answer =>
    match o.waiting[i]? with
    | none => p
    | some w => (w.request.effect answer).on p
  | .newConversation => .new

/-- What moves do to a page, one after another. -/
def turns (names : Names) (o : Overlap) (p : Page) : List Move → Page
  | [] => p
  | move :: rest => turns names (o.step names move) (o.turn p move) rest

theorem page_step (o : Overlap) (move : Move) :
    page (o.step names move).session = o.turn (page o.session) move := by
  cases move with
  | send content => exact page_add o.session (o.session.host.compose names content .user _)
  | newConversation =>
    exact page_unmount (remember (fun c => c.begin names) o.session)
  | answer i answer =>
    unfold step turn Overlap.answer
    dsimp only
    cases o.waiting[i]? with
    | none => rfl
    | some w =>
      have hresume := page_resume names answer w o.session
      dsimp only
      generalize w.resume names answer o.session = r at hresume
      obtain ⟨progress, s'⟩ := r
      cases progress with
      | asks request => exact hresume
      | ended delivery => exact hresume

theorem page_run (o : Overlap) (moves : List Move) :
    page (o.run names moves).session = o.turns names (page o.session) moves := by
  induction moves generalizing o with
  | nil => rfl
  | cons move rest ih =>
    rw [turns, ← page_step]
    exact ih (o.step names move)

/--
What is known of a chat since `n` messages were made: all that it still has were made since, and
exchanges that wait send one of these, or one of those that were on their way.
-/
structure Since (earlier : List Nat) (n : Nat) (o : Overlap) : Prop where
  made : n ≤ o.session.host.made
  messages : ∀ m ∈ o.session.host.messages, n ≤ m.number
  numbered : ∀ w ∈ o.waiting, w.number < o.session.host.made
  waiting : ∀ w ∈ o.waiting, w.number ∈ earlier ∨ n ≤ w.number

theorem since_start (names : Names) : Since [] 0 (start names) :=
  ⟨Nat.zero_le _, fun _ _ => Nat.zero_le _, nofun, nofun⟩

theorem endures_since (n made : Nat) : Endures fun s : Session Chat =>
    n ≤ s.host.made ∧ (∀ m ∈ s.host.messages, n ≤ m.number) ∧ made ≤ s.host.made := by
  refine endures_host (P := fun c => n ≤ c.made ∧ (∀ m ∈ c.messages, n ≤ m.number) ∧ made ≤ c.made)
    (fun number d h => ⟨h.1, fun m hm => ?_, h.2.2⟩)
    (fun hm h => ⟨Nat.le_succ_of_le h.1, fun k hk => ?_, Nat.le_succ_of_le h.2.2⟩) fun _ h => h
  · obtain ⟨m', hm', rfl⟩ := List.mem_map.mp hm
    have hnumber := h.2.1 m' hm'
    split <;> exact hnumber
  · rcases List.mem_append.mp hk with hk | hk
    · exact h.2.1 k hk
    · rw [List.mem_singleton.mp hk, hm]
      exact h.1

variable {earlier : List Nat} {n : Nat} {o : Overlap}

theorem host_newConversation (names : Names) (o : Overlap) :
    (o.step names .newConversation).session.host = o.session.host.begin names :=
  Session.host_unmount _

/-- A conversation that is begun keeps none of the messages, and all exchanges. -/
theorem since_newConversation (h : Since earlier n o) (names : Names) :
    Since (o.waiting.map Waiting.number) o.session.host.made (o.step names .newConversation) where
  made := by
    rw [host_newConversation]
    exact Nat.le_succ _
  messages m hm := by
    rw [host_newConversation] at hm
    rw [List.mem_singleton.mp hm]
    exact Nat.le_refl _
  numbered w hw := by
    rw [host_newConversation]
    exact Nat.lt_succ_of_lt (h.numbered w hw)
  waiting w hw := Or.inl (List.mem_map_of_mem hw)

/-- Exchanges go on under their numbers. -/
theorem Since.answer (h : Since earlier n o) (names : Names) (i : Nat)
    (answer : Except Fault Json) : Since earlier n (o.answer names i answer) := by
  unfold Overlap.answer
  cases hw : o.waiting[i]? with
  | none => exact h
  | some w =>
    obtain ⟨hmade, hmessages, hle⟩ := (endures_since n o.session.host.made).resume names answer w
      (s := o.session) ⟨h.made, h.messages, Nat.le_refl _⟩
    dsimp only
    generalize w.resume names answer o.session = r at hmade hmessages hle
    obtain ⟨progress, s'⟩ := r
    have hnumbered : ∀ w ∈ o.waiting, w.number < s'.host.made := fun w hw =>
      Nat.lt_of_lt_of_le (h.numbered w hw) hle
    cases progress with
    | asks request =>
      -- the same message is sent, with another request
      have hset : ∀ w' ∈ o.waiting.set i ⟨w.number, request⟩,
          ∃ w ∈ o.waiting, w'.number = w.number := by
        intro w' hw'
        rcases List.mem_or_eq_of_mem_set hw' with hw' | rfl
        · exact ⟨w', hw', rfl⟩
        · exact ⟨w, List.mem_of_getElem? hw, rfl⟩
      refine ⟨hmade, hmessages, fun w' hw' => ?_, fun w' hw' => ?_⟩
      · obtain ⟨w, hw, heq⟩ := hset w' hw'
        rw [heq]
        exact hnumbered w hw
      · obtain ⟨w, hw, heq⟩ := hset w' hw'
        rw [heq]
        exact h.waiting w hw
    | ended delivery =>
      exact ⟨hmade, hmessages, fun w' hw' => hnumbered w' (List.mem_of_mem_eraseIdx hw'),
        fun w' hw' => h.waiting w' (List.mem_of_mem_eraseIdx hw')⟩

theorem Since.send (h : Since earlier n o) (names : Names) (content : Json) :
    Since earlier n (o.send names content) := by
  obtain ⟨hmade, hmessages, -⟩ := (endures_since n 0).begin names content (s := o.session)
    ⟨h.made, h.messages, Nat.zero_le _⟩
  refine ⟨hmade, hmessages, fun w hw => ?_, fun w hw => ?_⟩
  · rcases List.mem_append.mp hw with hw | hw
    · exact Nat.lt_succ_of_lt (h.numbered w hw)
    · rw [List.mem_singleton.mp hw]
      exact Nat.lt_succ_self _
  · rcases List.mem_append.mp hw with hw | hw
    · exact h.waiting w hw
    · rw [List.mem_singleton.mp hw]
      exact Or.inr h.made

theorem Since.step (h : Since earlier n o) (names : Names) (move : Move) :
    Since earlier n (o.step names move) := by
  cases move with
  | send content => exact h.send names content
  | answer i answer => exact h.answer names i answer
  | newConversation =>
    have hbegun := since_newConversation h names
    exact ⟨Nat.le_trans h.made hbegun.made,
      fun m hm => Nat.le_trans h.made (hbegun.messages m hm), hbegun.numbered, h.waiting⟩

theorem Since.run (h : Since earlier n o) (names : Names) (moves : List Move) :
    Since earlier n (o.run names moves) := by
  induction moves generalizing o with
  | nil => exact h
  | cons move rest ih => exact ih (h.step names move)

end Overlap

/--
**What is shown in a conversation does not depend on when a message was sent**, only on when its
answer arrives. After a conversation was begun, the page is started over and turned by what happens
from then on. Among this are the answers to messages sent before, as long as their exchanges have
not ended; the messages themselves are not there any more.
-/
theorem page_of_conversation (names : Names) (moves moves' : List Move) :
    let o := Overlap.run names (Overlap.start names) moves
    let begun := o.step names .newConversation
    let o' := begun.run names moves'
    page o'.session = begun.turns names .new moves' ∧ begun.waiting = o.waiting ∧
    (∀ w ∈ o.waiting, w.number < o.session.host.made) ∧
    (∀ m ∈ o'.session.host.messages, o.session.host.made ≤ m.number) ∧
    (∀ w ∈ o'.waiting, w.number ∈ o.waiting.map Waiting.number ∨
      o.session.host.made ≤ w.number) := by
  intro o begun o'
  have ho : o.Since [] 0 := (Overlap.since_start names).run names moves
  have ho' : o'.Since _ _ := (Overlap.since_newConversation ho names).run names moves'
  refine ⟨?_, rfl, ho.numbered, ho'.messages, ho'.waiting⟩
  rw [Overlap.page_run, Overlap.page_step]
  rfl

/-- What a service says, with nothing to be shown. -/
def plainReply : Except Fault Json := .ok (.obj [("content", .str "late")])

/-- What a service says, with a form to be shown. -/
def formReply : Except Fault Json :=
  .ok (.obj [("content", .str "late"), ("metadata", .obj
    [("suggestedAction", .str Agent.suggestedAction),
      ("parameters", .obj [("type", .str "form")])])])

/-- A service answers with a form. -/
def formAnswer : Except Fault Json :=
  .ok (.obj [("components", .obj [("renderType", .str "server-rendered"),
    ("definition", .obj [("type", .str "form")])])])

/--
Answers to a message that was sent before the conversation was begun are said there, mount a form
there, and take down one that is shown there.
-/
theorem page_late_answers :
    let names : Names := ⟨toString, toString, toString⟩
    let began := (Overlap.start names).run names [.send (.str "before"), .newConversation]
    let said : Page := ⟨[(.agent, .str welcomeText), (.agent, .str "late")], none⟩
    let later := began.run names [.send (.str "after"), .answer 1 formReply, .answer 1 formAnswer]
    page began.session = .new ∧
      page (began.run names [.answer 0 plainReply]).session = said ∧
      (page (began.run names [.answer 0 formReply, .answer 0 formAnswer]).session).shown.isSome ∧
      (page later.session).shown.isSome ∧
      (page (later.run names [.answer 0 plainReply]).session).shown = none :=
  ⟨rfl, rfl, rfl, rfl, rfl⟩

end AssistantUI.Chat
