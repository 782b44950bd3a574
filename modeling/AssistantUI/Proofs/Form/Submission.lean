import AssistantUI.Proofs.Form.Tree

/-!
# What a form promises

A form that was built for a list of fields and mounted keeps its state under the names of the
fields. Two fields of one name share what is written, a name is there from its first change on, and
names stay in the order of their first changes. The host hears of nothing until the button is
clicked, and then once, with the whole state. The submission of the form itself, which a platform
sends along with the click, does nothing (`Session.form_submits_last_changes`).
-/

namespace AssistantUI

namespace Session

/-- A host that remembers what it is told. -/
def recordingHost (mountId : Nat → String) : Host (List (String × Payload)) where
  mountId := mountId
  onEvent := some fun _ name payload s =>
    .ask (.remember (s.host ++ [(name, payload)])) fun _ _ => .done
  onChange _ _ _ _ := .done

variable {fields : List Json} {tree : Json}

/-- **A form shows what was written last, and submits it.** After every sequence of changes, and
so after each step of one, the state holds the names that were changed with what came last, and
each control shows what the state holds under its name. A click on the button then tells the host
of that state and of nothing else; the submission of the form is suppressed and does nothing. -/
theorem form_submits_last_changes
    (htree : Build.envelope (.str "form") (.obj [("fields", .arr fields)]) = .ok tree)
    (mountId : Nat → String) (depth : Nat) (s : Session (List (String × Payload)))
    (changes : List (Fin fields.length × Json)) (click submit : Json) :
    let host := recordingHost mountId
    let i := s.mounts.length
    let writes := FieldSpec.writes fields changes
    ∃ s₁ s₂ m v,
      mount host (.json tree) s = (.ok (some i), s₁) ∧
      interact host (depth + 1) i
        (changes.map fun c => (Position.key [1, 3 * c.1 + 1] "onChange", c.2)) s₁ =
        (changes.map fun c => some (.ofJson c.2), s₂) ∧
      s₂.host = s.host ∧ s₂.mounts[i]? = some m ∧ m.mounted = true ∧ m.view = .one v ∧
      m.store.values.entries = (State.lastWritten writes).map (fun e => (.text e.1, e.2)) ∧
      (∀ j : Fin fields.length, ∃ el, v.at? [1, 3 * j + 1] = some (.element el) ∧
        el.props.get? "name" = some (.str (FieldSpec.nameOf fields[j])) ∧
        el.props.get? "value" =
          some ((Dict.find (FieldSpec.nameOf fields[j]) writes.reverse).getD .null)) ∧
      ∃ s₃, s₃ = { s₂ with host := s.host ++
          [("submit", Dict.ofList [(.text "state", .state m.store.values)])] } ∧
        interact host (depth + 1) i
          [(Position.key [1, 3 * fields.length] "onClick", click)] s₂ =
          ([some { Trigger.ofJson click with prevented := true }], s₃) ∧
        ∀ s', s' = s₂ ∨ s' = s₃ →
          interact host (depth + 1) i [(Position.key [1] "onSubmit", submit)] s' =
            ([some { Trigger.ofJson submit with prevented := true }], s') := by
  intro host i writes
  obtain ⟨root, issues, hparse, hform⟩ := Build.isForm_of_envelope htree
  obtain ⟨s₁, m₁, hmount, hm₁, hlive₁, -, hhost⟩ := mount_of_parse host s hparse
  obtain ⟨m, hlive, hchanges⟩ :=
    interact_changes host (depth + 1) hform.handles_change changes hm₁ hlive₁
  let s₂ := s₁.update i fun _ => m
  have hm₂ : s₂.mounts[i]? = some m := get?_update_self hm₁ _
  refine ⟨s₁, s₂, m, root.view (State.written writes), hmount, hchanges, hhost, hm₂,
    hlive.mounted, hlive.view, ?_, fun j => ?_, ?_⟩
  · rw [hlive.store]
    exact State.entries_written writes
  · rw [← State.value_written]
    exact hform.view j _
  · refine ⟨{ s₂ with host := s₂.host ++
      [("submit", Dict.ofList [(.text "state", .state m.store.values)])] }, ?_, ?_, ?_⟩
    · rw [show s₂.host = s.host from hhost]
    · refine interact_submits host (depth + 1) hm₂ hlive hform.handles_click click rfl rfl ?_
      -- the host is told once, and puts it behind what it was told before
      rw [hlive.store]
      rfl
    · intro s' hs'
      have hm' : s'.mounts[i]? = some m := by
        rcases hs' with rfl | rfl
        · exact hm₂
        · exact hm₂
      exact interact_prevents host (depth + 1) hm' hlive hform.handles_submit submit

/-- Two fields of one name, a choice, and a name that is a number. -/
def mixedFields : List Json :=
  [.str "state", .obj [("name", .str "state"), ("type", .str "textarea"), ("rows", .int 2)],
    .obj [("name", .str "color"), ("type", .str "select"), ("options", .arr [.str "red"])],
    .obj [("name", .int 5), ("label", .arr [.str "Five"]), ("required", .bool true)]]

/-- Of two fields of one name, the one that was changed last counts. -/
theorem form_submits_last_changes_mixed :
    ∃ tree s₁ s₂ m t,
      Build.envelope (.str "form") (.obj [("fields", .arr mixedFields)]) = .ok tree ∧
      mount (recordingHost fun _ => "m") (.json tree) (.new []) = (.ok (some 0), s₁) ∧
      (interact (recordingHost fun _ => "m") 1 0
        [("1.10.onChange", .int 1), ("1.1.onChange", .str "a"),
          ("1.4.onChange", .obj [("target", .obj [("value", .str "b")])])] s₁).2 = s₂ ∧
      s₂.mounts[0]? = some m ∧
      m.store.values.entries = [(.text "5", .int 1), (.text "state", .str "b")] ∧
      interact (recordingHost fun _ => "m") 1 0 [("1.12.onClick", .null)] s₂ =
        ([some t], { s₂ with host :=
          [("submit", Dict.ofList [(.text "state", .state
            (Dict.ofList [(.text "5", .int 1), (.text "state", .str "b")]))])] }) ∧
      t.prevented = true := by
  have htree : ∃ tree, Build.envelope (.str "form") (.obj [("fields", .arr mixedFields)]) =
    .ok tree := ⟨_, rfl⟩
  obtain ⟨tree, htree⟩ := htree
  let changes : List (Fin mixedFields.length × Json) :=
    [(⟨3, by decide⟩, .int 1), (⟨0, by decide⟩, .str "a"),
      (⟨1, by decide⟩, .obj [("target", .obj [("value", .str "b")])])]
  obtain ⟨s₁, s₂, m, v, hmount, hchanges, -, hm, -, -, hentries, -, s₃, hs₃, hclick, -⟩ :=
    form_submits_last_changes htree (fun _ => "m") 0 (.new []) changes .null .null
  have hevents : (changes.map fun c => (Position.key [1, 3 * c.1 + 1] "onChange", c.2)) =
      [("1.10.onChange", .int 1), ("1.1.onChange", .str "a"),
        ("1.4.onChange", .obj [("target", .obj [("value", .str "b")])])] := by decide +kernel
  have hlast : State.lastWritten (FieldSpec.writes mixedFields changes) =
      [("5", .int 1), ("state", .str "b")] := by decide +kernel
  have hbutton : Position.key [1, 3 * mixedFields.length] "onClick" = "1.12.onClick" := by
    decide +kernel
  rw [hevents] at hchanges
  rw [hlast] at hentries
  have hvalues : m.store.values = Dict.ofList [(.text "5", .int 1), (.text "state", .str "b")] :=
    Dict.ext hentries
  rw [hvalues] at hs₃
  rw [hbutton, hs₃] at hclick
  exact ⟨tree, s₁, s₂, m, _, htree, hmount, congrArg Prod.snd hchanges, hm, hentries, hclick, rfl⟩

end Session

end AssistantUI
