import AssistantUI.Proofs.Chat.Understanding
import AssistantUI.Proofs.Form.Flat

/-!
# Two shapes of one form

A form can be asked for as a tree and as a flat definition. The two have nothing in common but the
list of fields: they are built, rendered and registered by different code, their keys are different,
and they tell the host different things, the tree its state inside an object and the flat form the
state itself. A chat undoes that difference by looking at what is mounted.

Both are definitions whose field keys write and whose last key submits. What a chat makes of any
such definition is said once (`Chat.interact_form`); that the two shapes agree is then a matter of
both writing the same values under the same names (`Chat.forms_agree`).
-/

namespace AssistantUI

open Session

namespace Chat

theorem understands_tree (root : Node) :
    Understands (.tree root) fun state => Dict.ofList [(.text "state", .state state)] :=
  understands_described root Build.submitEvent

theorem unmount_during (s : Session Chat) (t : Trigger) :
    (s.during t).unmount = s.unmount.during t := by
  cases hcurrent : s.current with
  | none => simp only [unmount, during, hcurrent]
  | some i => simp only [unmount, during, hcurrent, update]

/-- A submission adds one message, and what was mounted is taken down. -/
theorem runIn_onEvent {d : Definition} {payload : State → Payload} (h : Understands d payload)
    (names : Names) (depth : Nat) {s : Session Chat} {m : Mount} {values : State}
    (hcurrent : s.currentMount = some m) (hlive : m.Live d values) (t : Trigger) :
    ((onEvent names submitEvent ((payload values).toJson) (s.during t)).run
        (perform (host names) (depth + 1))).runIn (s.during t) =
      (.ok (), (remember (fun c => c.withSubmission names (submissionText values.toJson))
        s).unmount.during t) := by
  have hsubmitted : submitted (s.during t) ((payload values).toJson) = .ok values.toJson :=
    h (s.during t) m values hcurrent hlive.definition
  rw [← unmount_during]
  exact runIn_onEvent_submit (fun _ _ _ _ => .done) hsubmitted depth

/-- **A mounted form, in a chat.** Changes write, one after another; the submission puts what was
written last among the messages, and nothing is mounted any more. -/
theorem interact_form {j : Json} {d : Definition} {issues : List Issue}
    (hparse : Definition.parse j = .ok (some d, issues)) {ι : Type} {key name : ι → String}
    (hwrites : ∀ x, d.Handles (key x) (Handler.Writes (name x))) {submitKey : String}
    {payload : State → Payload} (hsubmits : d.Handles submitKey (Handler.Submits payload))
    (hunderstands : Understands d payload) (names : Names) (depth : Nat) (s : Session Chat)
    (changes : List (ι × Json)) (submit : Json) :
    ∃ s₁ s₂, mount (host names) (.json j) s = (.ok (some s.mounts.length), s₁) ∧
      interact (host names) (depth + 1) s.mounts.length
        ((changes.map fun c => (key c.1, c.2)) ++ [(submitKey, submit)]) s₁ =
        ((changes.map fun c => some (.ofJson c.2)) ++
          [some { Trigger.ofJson submit with prevented := true }], s₂) ∧
      s₂.host = s.host.withSubmission names ("Form submitted with data: " ++
        (Json.obj (State.lastWritten
          (changes.map fun c => (name c.1, (Trigger.ofJson c.2).value)))).write .block) ∧
      s₂.current = none := by
  obtain ⟨s₁, m₁, hmount, hm₁, hlive₁, hcurrent, hhost⟩ := mount_of_parse (host names) s hparse
  obtain ⟨m, hlive, hchanges⟩ :=
    interact_changes (host names) (depth + 1) hwrites changes hm₁ hlive₁
  have hm : (s₁.update s.mounts.length fun _ => m).mounts[s.mounts.length]? = some m :=
    get?_update_self hm₁ _
  have hcurrentMount : (s₁.update s.mounts.length fun _ => m).currentMount = some m := by
    show s₁.current.bind _ = _
    rw [hcurrent]
    exact hm
  have htold := runIn_onEvent hunderstands names depth hcurrentMount hlive
    { Trigger.ofJson submit with prevented := true }
  rw [State.toJson_written] at htold
  have hsubmit := interact_submits (host names) (depth + 1) hm hlive hsubmits submit rfl rfl htold
  have hall := interact_append (host names) (depth + 1) s.mounts.length
    (changes.map fun c => (key c.1, c.2)) [(submitKey, submit)] s₁
  rw [hchanges, hsubmit] at hall
  refine ⟨s₁, _, hmount, hall, ?_, current_unmount _⟩
  rw [host_unmount]
  show withSubmission s₁.host names _ = _
  rw [hhost]
  rfl

variable {fields : List Json} {tree flat : Json}

/-- **The two shapes of a form of texts agree.** Whatever was said in two chats before, if the same
changes are made to the same form, in one of them to its tree and in the other to its flat
definition, and the form is submitted, then the default action is suppressed at the same events,
both chats add one message with the same text, and nothing is mounted in them any more. -/
theorem forms_agree (htext : ∀ f ∈ fields, FieldSpec.isText f = true)
    (htree : Build.envelope (.str "form") (.obj [("fields", .arr fields)]) = .ok tree)
    (hflat : Build.Flat.definition (.str "form") (.obj [("fields", .arr fields)]) = .ok flat)
    (names names' : Names) (depth : Nat) (s s' : Session Chat)
    (changes : List (Fin fields.length × Json)) (click submit : Json) :
    let text := "Form submitted with data: " ++
      (Json.obj (State.lastWritten (FieldSpec.writes fields changes))).write .block
    ∃ s₁ s₁' s₂ s₂' answers answers',
      mount (host names) (.json tree) s = (.ok (some s.mounts.length), s₁) ∧
      mount (host names') (.json flat) s' = (.ok (some s'.mounts.length), s₁') ∧
      interact (host names) (depth + 1) s.mounts.length
        ((changes.map fun c => (Position.key [1, 3 * c.1 + 1] "onChange", c.2)) ++
          [(Position.key [1, 3 * fields.length] "onClick", click)]) s₁ = (answers, s₂) ∧
      interact (host names') (depth + 1) s'.mounts.length
        ((changes.map fun c => ((Position.item "form" c.1).under "onChange", c.2)) ++
          [("form.onSubmit", submit)]) s₁' = (answers', s₂') ∧
      (answers.map fun t => t.map Trigger.prevented) =
        (answers'.map fun t => t.map Trigger.prevented) ∧
      (answers.map fun t => t.map Trigger.prevented) =
        List.replicate changes.length (some false) ++ [some true] ∧
      s₂.host = s.host.withSubmission names text ∧ s₂'.host = s'.host.withSubmission names' text ∧
      s₂.current = none ∧ s₂'.current = none := by
  intro text
  obtain ⟨root, issues, hparse, hform⟩ := Build.isForm_of_envelope htree
  obtain ⟨s₁, s₂, hmount, hinteract, hhost, hcurrent⟩ := interact_form hparse hform.handles_change
    hform.handles_click (understands_tree root) names depth s changes click
  obtain ⟨members, hparse', hchange'⟩ := Build.Flat.handles_of_definition hflat htext
  obtain ⟨s₁', s₂', hmount', hinteract', hhost', hcurrent'⟩ := interact_form hparse' hchange'
    (Flat.handles_submit members) (understands_flat "form" members) names' depth s' changes submit
  refine ⟨s₁, s₁', s₂, s₂', _, _, hmount, hmount', hinteract, hinteract', ?_, ?_, hhost, hhost',
    hcurrent, hcurrent'⟩
  · rw [List.map_append, List.map_append]
    rfl
  · rw [List.map_append, List.map_map]
    refine congrArg (· ++ _) (List.map_eq_replicate_iff.mpr fun c _ => ?_)
    exact congrArg some (Trigger.prevented_ofJson c.2)

/-- Two fields of one name, which is that of the member that a tree tells its state by, an area of
text and a name that is no text. -/
def textFields : List Json :=
  [.str "state", .obj [("name", .bool true), ("type", .str "textarea")],
    .obj [("name", .str "state"), ("type", .str ""), ("required", .int 1)]]

def countedNames : Names := ⟨toString, toString, toString⟩

/-- Both chats say the same of it. -/
theorem forms_agree_texts :
    let names := countedNames
    ∃ tree flat s₁ s₁',
      Build.envelope (.str "form") (.obj [("fields", .arr textFields)]) = .ok tree ∧
      Build.Flat.definition (.str "form") (.obj [("fields", .arr textFields)]) = .ok flat ∧
      mount (host names) (.json tree) (start names) = (.ok (some 0), s₁) ∧
      mount (host names) (.json flat) (start names) = (.ok (some 0), s₁') ∧
      (interact (host names) 1 0 [("1.4.onChange", .str "a"), ("1.7.onChange", .null),
        ("1.1.onChange", .obj [("value", .int 1)]), ("1.9.onClick", .null)] s₁).2.host =
        (new names).withSubmission names
          "Form submitted with data: \x7b\n  \"True\": \"a\",\n  \"state\": 1\n\x7d" ∧
      (interact (host names) 1 0 [("form.1.onChange", .str "a"), ("form.2.onChange", .null),
        ("form.0.onChange", .obj [("value", .int 1)]), ("form.onSubmit", .null)] s₁').2.host =
        (new names).withSubmission names
          "Form submitted with data: \x7b\n  \"True\": \"a\",\n  \"state\": 1\n\x7d" := by
  intro names
  have htree : ∃ tree, Build.envelope (.str "form") (.obj [("fields", .arr textFields)]) =
    .ok tree := ⟨_, rfl⟩
  have hflat : ∃ flat, Build.Flat.definition (.str "form") (.obj [("fields", .arr textFields)]) =
    .ok flat := ⟨_, rfl⟩
  obtain ⟨tree, htree⟩ := htree
  obtain ⟨flat, hflat⟩ := hflat
  let changes : List (Fin textFields.length × Json) :=
    [(⟨1, by decide⟩, .str "a"), (⟨2, by decide⟩, .null),
      (⟨0, by decide⟩, .obj [("value", .int 1)])]
  obtain ⟨s₁, s₁', s₂, s₂', _, _, hmount, hmount', hinteract, hinteract', -, -, hhost, hhost', -⟩ :=
    forms_agree (by decide +kernel) htree hflat names names 0 (start names) (start names) changes
      .null .null
  have hevents : (changes.map fun c => (Position.key [1, 3 * c.1 + 1] "onChange", c.2)) ++
      [(Position.key [1, 3 * textFields.length] "onClick", Json.null)] =
      [("1.4.onChange", .str "a"), ("1.7.onChange", .null),
        ("1.1.onChange", .obj [("value", .int 1)]), ("1.9.onClick", .null)] := by
    decide +kernel
  have hevents' : (changes.map fun c => ((Position.item "form" c.1).under "onChange", c.2)) ++
      [("form.onSubmit", Json.null)] =
      [("form.1.onChange", .str "a"), ("form.2.onChange", .null),
        ("form.0.onChange", .obj [("value", .int 1)]), ("form.onSubmit", .null)] := by
    decide +kernel
  have htext : "Form submitted with data: " ++
      (Json.obj (State.lastWritten (FieldSpec.writes textFields changes))).write .block =
      "Form submitted with data: \x7b\n  \"True\": \"a\",\n  \"state\": 1\n\x7d" := by
    decide +kernel
  rw [hevents] at hinteract
  rw [hevents'] at hinteract'
  rw [htext] at hhost hhost'
  exact ⟨tree, flat, s₁, s₁', htree, hflat, hmount, hmount',
    (congrArg (fun r => r.2.host) hinteract).trans hhost,
    (congrArg (fun r => r.2.host) hinteract').trans hhost'⟩

end Chat

end AssistantUI
