import AssistantUI.Proofs.Chat.Mounted
import AssistantUI.Proofs.Chat.Understanding
import AssistantUI.Proofs.Session.Silence
import AssistantUI.Proofs.Session.Single

/-!
# What a chat makes of a submission

A chat reads what it is told by the shape of what is present (`Chat.submitted`), and does not ask
who tells. It is right not to, because nobody but the present mount can tell of anything, even where
host code is called in the middle of a handler or of a round of listeners.

So a submission always comes to the same (`Chat.submissions_taken_down`): what the state of its
mount holds at that moment becomes one message of the user, and the mount is taken down. To speak of
that moment, sessions are recorded: the line that tells of a submission is followed by those in
which the code of the chat finds the session before and after each of its two steps.
-/

namespace AssistantUI

/-! ## Host code in a recorded session -/

namespace Session

variable {σ : Type}

/-- Host code goes on with the answer to what it asked, and is seen to find what there is then. -/
theorem Recorded.runIn_andThen_ok {perform : Op σ → Act (Recorded σ) Reply} {op : Op σ}
    {next : Reply → Session σ → Code σ} {r r' : Recorded σ} {x : Reply}
    (h : (perform op).runIn r = (.ok x, r')) :
    (Recorded.runCode perform (.andThen op next)).runIn r =
      (Recorded.runCode perform (next x r'.session)).runIn r'.see := by
  dsimp only [Recorded.runCode, Script.andThen, Act.runIn] at h ⊢
  rw [h]

/-- Mounting nothing takes down what is present, and there is nothing else to note. -/
theorem Recorded.perform_mount_null (host : Host σ) (depth : Nat) (r : Recorded σ) :
    (Recorded.perform host (depth + 1) (.mount (.json .null))).runIn r =
      (.ok (.mounted none), { r with session := r.session.unmount }) := by
  have hnone : r.session.unmount.mounts[r.session.mounts.length]? = none :=
    List.getElem?_eq_none_iff.mpr (Nat.le_of_eq (length_unmount _))
  have hmount : Recorded.mount host (.json .null) r =
      (.ok none, { r with session := r.session.unmount }) := by
    unfold Recorded.mount
    rw [mount_of_null host r.session rfl]
    dsimp only
    rw [hnone]
  show ((Recorded.mount host (.json .null) r).1.map Reply.mounted,
    (Recorded.mount host (.json .null) r).2) = _
  rw [hmount]
  rfl

end Session

namespace Chat

open Session

/-- The chat understands whatever the handlers of the present mount tell it. -/
theorem submitted_of_fits {s : Session Chat} {m : Mount} (hcurrent : s.currentMount = some m)
    {handler : Handler} (hfits : handler.Fits m.definition) {name : String}
    {payload : State → Payload} (htells : handler.tells = some (name, payload)) (values : State) :
    submitted s (payload values).toJson = .ok values.toJson := by
  cases hdefinition : m.definition with
  | none =>
    rw [hdefinition] at hfits
    cases handler <;> cases hfits
  | some d =>
    rw [hdefinition] at hfits
    cases handler with
    | fieldChange => cases htells
    | described e =>
      obtain ⟨_, -, heq⟩ := Option.map_eq_some_iff.mp htells
      cases heq
      cases d with
      | tree root => exact understands_described root e s m values hcurrent hdefinition
      | flat => cases hfits
    | formSubmit =>
      cases htells
      cases d with
      | tree => cases hfits
      | flat type members => exact understands_flat type members s m values hcurrent hdefinition

/-! ## The code of the chat, step by step -/

section

variable {names : Names} (onChange : Nat → Nat → State → Session Chat → Code Chat)

/-- Where calls nest too deeply, the code of the chat is not carried out. -/
theorem runIn_onEvent_submit_zero {s : Session Chat} {payload data : Json}
    (h : submitted s payload = .ok data) :
    ((onEvent names submitEvent payload s).run (perform (hostWith names onChange) 0)).runIn s =
      (.error .nestedTooDeeply, s) := by
  unfold onEvent
  rw [if_pos rfl, h]
  rfl

/-- What host code finds while the chat hears of a submission. -/
theorem runIn_onEvent_submit_recorded {r : Recorded Chat} {payload data : Json}
    (h : submitted r.session payload = .ok data) (depth : Nat) :
    (Recorded.call (Recorded.perform (hostWith names onChange) (depth + 1))
        (onEvent names submitEvent payload)).runIn r =
      (.ok (), ⟨(heardSubmission names data r.session).unmount, r.journal ++
        [.seeing r.session, .seeing (heardSubmission names data r.session),
          .seeing (heardSubmission names data r.session).unmount]⟩) := by
  let message := r.session.host.compose names (.str (submissionText data)) .user (some .sent)
  let heard : Recorded Chat := { r.see with session := heardSubmission names data r.session }
  show (Recorded.runCode _ (onEvent names submitEvent payload r.session)).runIn r.see = _
  unfold onEvent
  rw [if_pos rfl, h]
  show (Recorded.runCode _ (.andThen (.remember (r.session.host.add message)) _)).runIn r.see = _
  have hremember : (Recorded.perform (hostWith names onChange) (depth + 1)
    (.remember (r.session.host.add message))).runIn r.see = (.ok .done, heard) := rfl
  rw [Recorded.runIn_andThen_ok hremember,
    Recorded.runIn_andThen_ok (Recorded.perform_mount_null _ depth heard.see)]
  show (Except.ok (), Recorded.mk heard.session.unmount
    (((r.journal ++ [_]) ++ [_]) ++ [_])) = _
  rw [List.append_assoc, List.append_assoc]
  rfl

/-- What host code finds while it is not carried out. -/
theorem runIn_onEvent_submit_nested {r : Recorded Chat} {payload data : Json}
    (h : submitted r.session payload = .ok data) :
    (Recorded.call (Recorded.perform (hostWith names onChange) 0)
        (onEvent names submitEvent payload)).runIn r =
      (.error .nestedTooDeeply,
        ⟨r.session, r.journal ++ [.seeing r.session, .seeing r.session]⟩) := by
  let message := r.session.host.compose names (.str (submissionText data)) .user (some .sent)
  show (Recorded.runCode _ (onEvent names submitEvent payload r.session)).runIn r.see = _
  unfold onEvent
  rw [if_pos rfl, h]
  show (Except.error Fault.nestedTooDeeply, Recorded.mk r.session ((r.journal ++ [_]) ++ [_])) = _
  rw [List.append_assoc]
  rfl

end

/-! ## What a journal says of submissions -/

section

variable (names : Names) (onChange : Nat → Nat → State → Session Chat → Code Chat)

/--
What a journal says of a submission of a mount in the lines behind the `k`th. The mount is mounted
and present. If the chat is told of the submission then, what the state holds becomes a message, and
the mount is taken down; only where calls nest too deeply nothing is done instead.
-/
def TakenDown (i : Nat) (payload : Payload) (journal : List (Moment Chat)) (k : Nat) : Prop :=
  ∃ s m, journal[k + 1]? = some (.seeing s) ∧ s.mounts[i]? = some m ∧ m.mounted = true ∧
    s.current = some i ∧
    let heard := heardSubmission names m.store.values.toJson s
    (∀ depth, (emit (hostWith names onChange)
        (fun code s => (code s).run (perform (hostWith names onChange) (depth + 1)) s)
        i submitEvent payload).runIn s = (.ok (), heard.unmount)) ∧
      (journal[k + 2]? = some (.seeing heard) ∧ journal[k + 3]? = some (.seeing heard.unmount) ∨
        journal[k + 2]? = some (.seeing s))

/-- Every submission in a journal is taken down. -/
def AllTakenDown (journal : List (Moment Chat)) : Prop :=
  ∀ k i payload, journal[k]? = some (.telling i submitEvent payload) →
    TakenDown names onChange i payload journal k

variable {names onChange} {i k : Nat} {payload : Payload} {journal lines : List (Moment Chat)}

/-- Lines may come before a submission, and behind it. -/
theorem TakenDown.mono {journal' : List (Moment Chat)} {k' : Nat}
    (h : TakenDown names onChange i payload journal k)
    (hlines : ∀ n e, journal[k + n]? = some e → journal'[k' + n]? = some e) :
    TakenDown names onChange i payload journal' k' := by
  obtain ⟨s, m, hs, hm, hmounted, hcurrent, hemit, hrest⟩ := h
  refine ⟨s, m, hlines 1 _ hs, hm, hmounted, hcurrent, hemit, ?_⟩
  exact hrest.imp (fun h => ⟨hlines 2 _ h.1, hlines 3 _ h.2⟩) (hlines 2 _)

theorem AllTakenDown.append (h : AllTakenDown names onChange journal)
    (hlines : AllTakenDown names onChange lines) :
    AllTakenDown names onChange (journal ++ lines) := by
  intro k i payload hk
  by_cases hlt : k < journal.length
  · rw [List.getElem?_append_left hlt] at hk
    refine (h k i payload hk).mono fun n e he => ?_
    rw [List.getElem?_append_left (List.getElem?_eq_some_iff.mp he).1, he]
  · rw [List.getElem?_append_right (by omega)] at hk
    refine (hlines _ i payload hk).mono fun n e he => ?_
    rw [List.getElem?_append_right (by omega), ← he]
    congr 1
    omega

/-- The lines of a submission, as far as the bound on the nesting of calls lets them get. -/
theorem takenDown_lines {s : Session Chat} {m : Mount} (hm : s.mounts[i]? = some m)
    (hmounted : m.mounted = true) (hcurrent : s.current = some i)
    (h : submitted s payload.toJson = .ok m.store.values.toJson)
    (hlines : lines = [.seeing s] ∨
      lines = [.seeing (heardSubmission names m.store.values.toJson s),
        .seeing (heardSubmission names m.store.values.toJson s).unmount]) :
    AllTakenDown names onChange (.telling i submitEvent payload :: .seeing s :: lines) := by
  have hemit : ∀ depth, (emit (hostWith names onChange)
      (fun code s => (code s).run (perform (hostWith names onChange) (depth + 1)) s)
      i submitEvent payload).runIn s =
        (.ok (), (heardSubmission names m.store.values.toJson s).unmount) := by
    intro depth
    dsimp only [emit, Act.runIn]
    rw [hm]
    exact (if_pos hmounted).trans (runIn_onEvent_submit onChange h depth)
  intro k j payload' hk
  match k with
  | 0 =>
    cases hk
    refine ⟨s, m, rfl, hm, hmounted, hcurrent, hemit, ?_⟩
    rcases hlines with rfl | rfl
    · exact Or.inr rfl
    · exact Or.inl ⟨rfl, rfl⟩
  | 1 => cases hk
  | k + 2 =>
    -- nobody is told of anything in the rest
    have hmem : Moment.telling j submitEvent payload' ∈ lines := List.mem_of_getElem? hk
    rcases hlines with rfl | rfl <;> simp at hmem

theorem allTakenDown_single {e : Moment Chat}
    (h : ∀ i payload, e ≠ .telling i submitEvent payload) : AllTakenDown names onChange [e] := by
  intro k i payload hk
  exact absurd (List.mem_singleton.mp (List.mem_of_getElem? hk)).symm (h i payload)

/-! ## Submissions wherever they come from -/

/-- A recorded session in which at most one mount was ever mounted at a time, and in which every
submission was taken down. -/
structure Recounted (names : Names) (onChange : Nat → Nat → State → Session Chat → Code Chat)
    (r : Recorded Chat) : Prop where
  sound : r.session.Sound
  seen : ∀ s, .seeing s ∈ r.journal → s.Sound
  takenDown : AllTakenDown names onChange r.journal

namespace Recounted

variable {r : Recorded Chat} (h : Recounted names onChange r)
include h

theorem move {s : Session Chat} (hs : s.Sound) :
    Recounted names onChange { r with session := s } := ⟨hs, h.seen, h.takenDown⟩

theorem extend {s : Session Chat} (hs : s.Sound) (hseen : ∀ s', .seeing s' ∈ lines → s'.Sound)
    (hlines : AllTakenDown names onChange lines) :
    Recounted names onChange ⟨s, r.journal ++ lines⟩ where
  sound := hs
  seen s' hs' := by
    rcases List.mem_append.mp hs' with hs' | hs'
    · exact h.seen s' hs'
    · exact hseen s' hs'
  takenDown := h.takenDown.append hlines

/-- Lines that tell of no submission may be written. -/
theorem note {e : Moment Chat} (htells : ∀ i payload, e ≠ .telling i submitEvent payload)
    (hsees : ∀ s, e = .seeing s → s.Sound) : Recounted names onChange (r.note e) :=
  h.extend h.sound (fun s hs => hsees s (List.mem_singleton.mp hs).symm)
    (allTakenDown_single htells)

end Recounted

theorem undisturbed_recounted : Undisturbed (Recounted names onChange) where
  seeing h := h.note nofun fun s hs => by cases hs; exact h.sound
  hidden h hcurrent _ hface := h.move (h.sound.of_face hcurrent hface)
  stop i h := h.move (h.sound.stop i)
  unmount h := h.move h.sound.unmount
  start id definition issues h hcurrent :=
    (h.move (h.sound.start hcurrent id definition issues)).note nofun nofun
  render {r i m} h hm := (h.move (steady_sound.render h.sound hm)).note nofun nofun
  merge h hm hchanges := (h.move (steady_sound.merge h.sound hm hchanges)).note nofun nofun

/-- The code of the chat does the same in a recorded session, in which it is taken down as well. -/
theorem told_alike {base : Session Chat} {r : Recorded Chat} (hheard : r.session.Heard)
    (h : Recounted names onChange r) (hgrows : base.Grows r.session) {m : Mount}
    (hm : r.session.mounts[i]? = some m) (hmounted : m.mounted = true) {handler : Handler}
    (hfits : handler.Fits m.definition) {name : String} {payload : State → Payload}
    (htells : handler.tells = some (name, payload)) (depth : Nat) :
    let told := payload m.store.values
    let code := onEvent names name told.toJson
    let recorded := (Recorded.call (Recorded.perform (hostWith names onChange) depth) code).runIn
      (r.note (.telling i name told))
    let plain := ((code r.session).run (perform (hostWith names onChange) depth)).runIn r.session
    recorded.1 = plain.1 ∧
      Coupled (fun q => Recounted names onChange q ∧ base.Grows q.session) recorded.2 plain.2 := by
  intro told code recorded plain
  by_cases hname : name = submitEvent
  · subst hname
    have hcurrent := h.sound.single i m hm hmounted
    have hsubmitted : submitted r.session told.toJson = .ok m.store.values.toJson :=
      submitted_of_fits (by rw [currentMount, hcurrent]; exact hm) hfits htells m.store.values
    cases depth with
    | zero =>
      have hrecorded : recorded = _ :=
        runIn_onEvent_submit_nested onChange (r := r.note _) hsubmitted
      have hplain : plain = _ := runIn_onEvent_submit_zero onChange hsubmitted
      rw [hrecorded, hplain]
      refine ⟨rfl, rfl, hheard, ?_, hgrows⟩
      rw [Recorded.note, List.append_assoc]
      refine h.extend h.sound (fun s hs => ?_)
        (takenDown_lines hm hmounted hcurrent hsubmitted (Or.inl rfl))
      simp at hs
      exact hs ▸ h.sound
    | succ depth =>
      have hrecorded : recorded = _ :=
        runIn_onEvent_submit_recorded onChange (r := r.note _) hsubmitted depth
      have hplain : plain = _ := runIn_onEvent_submit onChange hsubmitted depth
      rw [hrecorded, hplain]
      let heard := heardSubmission names m.store.values.toJson r.session
      have hsound : heard.Sound := h.sound.of_face rfl rfl
      have hgrown : r.session.Grows heard.unmount := .trans (.of_face rfl) (.unmount heard)
      refine ⟨rfl, rfl, heard_unmount hheard, ?_, hgrows.trans hgrown⟩
      rw [Recorded.note, List.append_assoc]
      refine h.extend hsound.unmount (fun s hs => ?_)
        (takenDown_lines hm hmounted hcurrent hsubmitted (Or.inr rfl))
      simp at hs
      rcases hs with rfl | rfl | rfl
      · exact h.sound
      · exact hsound
      · exact hsound.unmount
  · have hcode : onEvent names name told.toJson r.session = .done := if_neg hname
    have hplain : plain = (.ok (), r.session) := by
      show ((onEvent names name told.toJson r.session).run _).runIn r.session = _
      rw [hcode]
      rfl
    have hrecorded : recorded = (.ok (), (r.note (.telling i name told)).see) := by
      show (Recorded.runCode _ (onEvent names name told.toJson r.session)).runIn _ = _
      rw [hcode]
      rfl
    rw [hplain, hrecorded]
    refine ⟨rfl, rfl, hheard, ?_, hgrows⟩
    refine undisturbed_recounted.seeing (h.note (fun _ _ heq => hname ?_) fun s hs => ?_)
    · cases heq
      rfl
    · cases hs

/-- Whatever is asked of a session, every submission is taken down. -/
theorem permitted_recounted
    (hlisten : ∀ i number changes s, s.Sound →
      (onChange i number changes s).KeepsTo Session.Sound Op.Fair s)
    (depth : Nat) : Permitted (Recounted names onChange) Op.Fair
      (Recorded.perform (hostWith names onChange) depth)
      (perform (hostWith names onChange) depth) := by
  refine undisturbed_recounted.perform_simulates (fun _ hr => hr.sound) (hostWith names onChange)
    hlisten
    (fun r memory hr _ => hr.move (hr.sound.of_face rfl rfl))
    (fun depth _ r op i handler hr hop hruns => ?_) depth
  refine tellsAlike_of_told fun told name payload htold htells q m hq hm hmounted => ?_
  obtain rfl := Option.some.inj htold
  exact told_alike hq.heard hq.inv.1 hq.inv.2 hm hmounted
    (fits_of_runs hr.sound hop hruns hq.inv.2 hm) htells depth

end

/-! ## Where a chat can come to -/

theorem keeps_sound : Keeps Session.Sound where
  remember _ h := h.of_face rfl rfl
  unmount h := h.unmount
  start id definition issues h hcurrent := h.start hcurrent id definition issues

/--
What a chat can come to: messages are sent, answers arrive in any order, conversations are begun,
user interfaces are asked for, and in between host code of any kind does whatever it likes with what
is shown and with what once was.
-/
inductive Reached (names : Names) (onChange : Nat → Nat → State → Session Chat → Code Chat) :
    Overlap → Prop where
  | start : Reached names onChange (.start names)
  | step {o : Overlap} (move : Move) : Reached names onChange o →
      Reached names onChange (o.step names move)
  | generated {o : Overlap} (answer : Except Fault Json) : Reached names onChange o →
      Reached names onChange
        { o with session := ((showInterface names answer).runIn o.session).2 }
  | ran {o : Overlap} (depth : Nat) (code : Session Chat → Code Chat) : Reached names onChange o →
      Reached names onChange
        { o with session := (((code o.session).run
          (perform (hostWith names onChange) depth)).runIn o.session).2 }

variable {names : Names} {onChange : Nat → Nat → State → Session Chat → Code Chat}

theorem Reached.sound {o : Overlap} (h : Reached names onChange o) :
    o.session.Heard ∧ o.session.Sound := by
  induction h with
  | start => exact ⟨fun i m hm => absurd hm (by simp [Overlap.start, Chat.start, Session.new]),
      sound_new _⟩
  | step move _ ih => exact ⟨keeps_heard.step names ih.1 move, keeps_sound.step names ih.2 move⟩
  | generated answer _ ih =>
    exact ⟨keeps_heard.showInterface names answer ih.1, keeps_sound.showInterface names answer ih.2⟩
  | @ran o depth code _ ih =>
    have hperform := steady_sound.perform_simulates (hostWith names onChange) depth
    obtain ⟨-, hsame, hheard, hsound⟩ :=
      steady_sound.call_simulates hperform code ⟨o.session, []⟩ o.session ⟨rfl, ih.1, ih.2⟩
    exact ⟨hheard, hsame ▸ hsound⟩

/-! ## The main result -/

/--
**At most one mount is mounted, and whatever it submits becomes a message.** This holds of every
session that a chat can come to, and wherever host code runs in it, in the middle of handlers and of
rounds of listeners included. If a mount tells of a submission, then it is the present one; one
message of the user is added, which says what its state holds at that moment, and it is taken down.
All that can prevent this is the bound on the nesting of calls.

Those who listen and the code that is run may do anything, except that a handler is run by the mount
that it was taken from.
-/
theorem submissions_taken_down
    (hlisten : ∀ i number changes s, s.Sound →
      (onChange i number changes s).KeepsTo Session.Sound Op.Fair s)
    {o : Overlap} (ho : Reached names onChange o) (depth : Nat) (code : Session Chat → Code Chat)
    (hcode : (code o.session).KeepsTo Session.Sound Op.Fair o.session) :
    let host := hostWith names onChange
    let plain := ((code o.session).run (perform host depth)).runIn o.session
    let recorded := (Recorded.call (Recorded.perform host depth) code).runIn ⟨o.session, []⟩
    recorded.1 = plain.1 ∧ recorded.2.session = plain.2 ∧
    o.session.Single ∧ plain.2.Single ∧ (∀ s, .seeing s ∈ recorded.2.journal → s.Single) ∧
    ∀ k i payload, recorded.2.journal[k]? = some (.telling i "submit" payload) →
      ∃ s m, recorded.2.journal[k + 1]? = some (.seeing s) ∧
        s.mounts[i]? = some m ∧ m.mounted = true ∧ s.current = some i ∧
        ∃ data text heard,
          data = Json.obj (m.store.values.entries.map fun e => (e.1.memberName, e.2)) ∧
          text = "Form submitted with data: " ++ data.write .block ∧
          heard = { s with host := { s.host with
            messages := s.host.messages ++ [{
              number := s.host.made, id := .str (names.message s.host.made), content := .str text,
              sender := .user, delivery := some .sent, metadata := .null }]
            made := s.host.made + 1 } } ∧
          heard.unmount.host = heard.host ∧ heard.unmount.current = none ∧
          (∀ (j : Nat) (m' : Mount), heard.unmount.mounts[j]? = some m' → m'.mounted = false) ∧
          (∀ n, (emit host (fun code s => (code s).run (perform host (n + 1)) s) i "submit"
            payload).runIn s = (.ok (), heard.unmount)) ∧
          (recorded.2.journal[k + 2]? = some (.seeing heard) ∧
              recorded.2.journal[k + 3]? = some (.seeing heard.unmount) ∨
            recorded.2.journal[k + 2]? = some (.seeing s)) := by
  intro host plain recorded
  obtain ⟨hheard, hsound⟩ := ho.sound
  have hstart : Recounted names onChange ⟨o.session, []⟩ := ⟨hsound, nofun, nofun⟩
  obtain ⟨hresult, hsession, -, hrecounted, -⟩ :=
    (permitted_recounted hlisten depth).runCode_simulates undisturbed_recounted
      (fun _ hr => hr.sound) o.session (code o.session)
      ⟨rfl, hheard, undisturbed_recounted.seeing hstart, .refl _⟩ hcode
  refine ⟨hresult, hsession, hsound.single, hsession ▸ hrecounted.sound.single,
    fun s hs => (hrecounted.seen s hs).single, fun k i payload hk => ?_⟩
  obtain ⟨s, m, hs, hm, hmounted, hcurrent, hemit, hlines⟩ := hrecounted.takenDown k i payload hk
  have hfound : s.Sound := hrecounted.seen s (List.mem_of_getElem? hs)
  have hheardSound : (heardSubmission names m.store.values.toJson s).Sound := hfound.of_face rfl rfl
  exact ⟨s, m, hs, hm, hmounted, hcurrent, m.store.values.toJson, _, _, rfl, rfl, rfl,
    host_unmount _, current_unmount _, fun _ _ hm' => hheardSound.single.unmount hm', hemit, hlines⟩

/-- Someone who clicks again as soon as a click has written something. -/
def eagerListener (i _ : Nat) (changes : State) (_ : Session Chat) : Code Chat :=
  if changes.get? (.text "a") = some (.str "first") then
    .ask (.invoke i (.text "onClick") { value := .str "second" }) fun _ _ => .done
  else .done

/-- Clicks a button and keeps its handler, which is run again while a form is filled in. -/
def eagerCode (_ : Session Chat) : Code Chat :=
  let click : EventDescriptor :=
    ⟨some "submit", some (Dict.ofList [("a", .field .value)]), some submitEvent,
      some (Dict.ofList [("state", .int 1)])⟩
  let button : Node := ⟨"button", ∅, .empty, Dict.ofList [("onClick", click)], ∅⟩
  let field : Json := .obj [("type", .str "input"), ("name", .str "state")]
  let form : Json := .obj [("type", .str "form"), ("components", .arr [field])]
  .ask (.mount (.node button)) fun _ s =>
    match (s.mounts[0]?).bind fun m => m.callbacks.get? "onClick" with
    | none => .done
    | some callback =>
      .ask (.subscribe 0 7) fun _ _ =>
      .ask (.invoke 0 (.text "onClick") { value := .str "first" }) fun _ _ =>
      .ask (.mount (.json form)) fun _ _ =>
      .ask (.invoke 1 (.text "form.0.onChange") { value := .str "hi" }) fun _ _ =>
      .ask (.runHandler 0 callback.handler { value := .str "third" }) fun _ _ =>
      .ask (.invoke 1 (.text "form.onSubmit") {}) fun _ _ => .done

theorem keepsTo_eagerListener (i number : Nat) (changes : State) (s : Session Chat) :
    (eagerListener i number changes s).KeepsTo Session.Sound Op.Fair s := by
  unfold eagerListener
  split
  · exact ⟨trivial, fun _ _ _ _ => trivial⟩
  · trivial

theorem keepsTo_eagerCode (s : Session Chat) :
    (eagerCode s).KeepsTo Session.Sound Op.Fair s := by
  refine ⟨trivial, fun _ s₁ _ hsound => ?_⟩
  dsimp only
  cases hfound : (s₁.mounts[0]?).bind fun m => m.callbacks.get? "onClick" with
  | none => trivial
  | some callback =>
    obtain ⟨m, hm, hcallback⟩ := Option.bind_eq_some_iff.mp hfound
    refine ⟨trivial, fun _ s₂ h₂ _ => ⟨trivial, fun _ s₃ h₃ _ => ⟨trivial, fun _ s₄ h₄ _ =>
      ⟨trivial, fun _ s₅ h₅ _ => ⟨?_, fun _ _ _ _ => ⟨trivial, fun _ _ _ _ => trivial⟩⟩⟩⟩⟩⟩
    exact fair_of_found hsound hm hcallback (h₂.trans (h₃.trans (h₄.trans h₅))) _

/-- Two of three clicks come to nothing: one tree is taken down before, and stays down. -/
theorem submissions_taken_down_eager :
    let names : Names := ⟨toString, toString, toString⟩
    let o := Overlap.start names
    let plain := ((eagerCode o.session).run (perform (hostWith names eagerListener) 6)).runIn
      o.session
    let recorded := (Recorded.call (Recorded.perform (hostWith names eagerListener) 6)
      eagerCode).runIn ⟨o.session, []⟩
    (∀ i number changes s, s.Sound →
        (eagerListener i number changes s).KeepsTo Session.Sound Op.Fair s) ∧
      Reached names eagerListener o ∧
      (eagerCode o.session).KeepsTo Session.Sound Op.Fair o.session ∧
      recorded.2.journal.filterMap Moment.told? =
        [(0, "submit", Dict.ofList [(.text "state", .state
            (Dict.ofList [(.text "a", .str "second")]))]),
          (1, "submit", Dict.ofList [(.text "state", .value (.str "hi"))])] ∧
      (∀ i payload, (i, "submit", payload) ∈ recorded.2.journal.filterMap Moment.told? →
        ∃ k s m, recorded.2.journal[k]? = some (.telling i "submit" payload) ∧
          recorded.2.journal[k + 1]? = some (.seeing s) ∧ s.mounts[i]? = some m ∧
          m.mounted = true ∧ s.current = some i) ∧
      plain.2.Single ∧
      plain.2.host.messages.map Message.content =
        [.str "Hello! I am High5, your AI assistant. How can I help you today?",
          .str "Form submitted with data: \x7b\n  \"a\": \"second\"\n\x7d",
          .str "Form submitted with data: \x7b\n  \"state\": \"hi\"\n\x7d"] := by
  intro names o plain recorded
  have hlisten : ∀ i number changes s, s.Sound →
      (eagerListener i number changes s).KeepsTo Session.Sound Op.Fair s :=
    fun i number changes s _ => keepsTo_eagerListener i number changes s
  have hreached : Reached names eagerListener o := .start
  obtain ⟨-, -, -, hsingle, -, htaken⟩ :=
    submissions_taken_down hlisten hreached 6 eagerCode (keepsTo_eagerCode _)
  have hrecorded : (Recorded.call (Recorded.perform (hostWith names eagerListener) 6)
    eagerCode).runIn ⟨o.session, []⟩ = recorded := rfl
  rw [hrecorded] at htaken
  refine ⟨hlisten, hreached, keepsTo_eagerCode _, by decide +kernel, fun i payload htold => ?_,
    hsingle, by decide +kernel⟩
  obtain ⟨k, hk⟩ := Moment.mem_filterMap_told? htold
  obtain ⟨s, m, hs, hm, hmounted, hcurrent, -⟩ := htaken k i payload hk
  exact ⟨k, s, m, hk, hs, hm, hmounted, hcurrent⟩

end Chat

end AssistantUI
