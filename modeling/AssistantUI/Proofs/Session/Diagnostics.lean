import AssistantUI.Proofs.Build.Envelope
import AssistantUI.Proofs.Definition.Issues
import AssistantUI.Proofs.Render.Issues
import AssistantUI.Proofs.Session.Ledger

/-!
# What is noted of a mounted tree

The notes of a mount begin with what was wrong with the definition when it was read. Then comes what
the first rendering finds: while nothing is set, every prop that is bound is bound to nothing, and
every type that is no tag is met. All of this is noted, below void tags and unknown types too, since
no two such issues are filed under the same code and key.

No later rendering adds anything, whatever was set or unset in the meantime. So what comes next are
the invocations alone: one note for each that finds no callback and one for each whose handler
fails, in the order in which they end (`diagnostics_of_run`).
-/

namespace AssistantUI

/-- The note of an issue in a mount. -/
def Mount.noteOf (m : Mount) (i : Issue) : Diagnostic := m.reporter.note i.report

/-! ## The first rendering -/

theorem Mountable.ofReading_parse (what : Mountable) : Parse.OfReading what.parse := by
  cases what with
  | json j => exact Definition.ofReading_parse j
  | node n => exact .pure _
  | definition d => exact .pure _

/-- Where there is a definition, there is something to mount. -/
theorem Mountable.isNull_of_parse {what : Mountable} {d : Definition} {issues : List Issue}
    (h : what.parse = .ok (some d, issues)) : what.isNull = false := by
  cases what with
  | json j =>
    cases j with
    | null =>
      obtain ⟨hnone, -⟩ := Parse.of_pure_ok h
      cases hnone
    | _ => rfl
  | node n => rfl
  | definition d => rfl

/-- Nothing that is only noted once is among the issues of reading. -/
theorem onceIds_ofReading {issues : List Issue} (h : ∀ i ∈ issues, i.isOfReading = true) :
    issues.filterMap Issue.onceId? = [] :=
  List.filterMap_eq_nil_iff.mpr fun i hi => Issue.onceId?_of_isOfReading (h i hi)

namespace Mount

variable {id : String} {root : Node} {issues : List Issue}

theorem reporter_start (id : String) (root : Node) (issues : List Issue) :
    (start id (some (.tree root)) issues).reporter =
      Reporter.addAll { mountId := some (.str id) }
        (issues ++ (Content.single root).issues ∅ "") := by
  rw [Reporter.addAll_append]
  rfl

/-- Whatever was wrong is noted, and each of it once. -/
theorem diagnostics_start (id : String) (root : Node) (h : ∀ i ∈ issues, i.isOfReading = true) :
    (start id (some (.tree root)) issues).reporter.diagnostics =
      (issues ++ (Content.single root).issues ∅ "").map
        (start id (some (.tree root)) issues).noteOf := by
  have hids : (issues ++ (Content.single root).issues ∅ "").filterMap Issue.onceId? =
      ((Content.single root).issues ∅ "").filterMap Issue.onceId? := by
    rw [List.filterMap_append, onceIds_ofReading h, List.nil_append]
  have hmountId : (start id (some (.tree root)) issues).reporter.mountId = some (.str id) := by
    rw [reporter_start, Reporter.mountId_addAll]
  have hnote : (start id (some (.tree root)) issues).noteOf = fun i =>
      Reporter.note { mountId := some (.str id) } i.report :=
    funext fun i => Reporter.note_of_mountId hmountId i.report
  rw [hnote, reporter_start, Reporter.diagnostics_addAll]
  · exact List.nil_append _
  · exact fun _ _ => Reporter.has_of_seen_nil rfl _
  · rw [hids]
    exact Content.nodup_onceIds _

/-- What the first rendering finds is on record. -/
theorem has_start {i : Issue} (hi : i ∈ (Content.single root).issues ∅ "")
    {key : String × String} (hkey : i.onceId? = some key) :
    (start id (some (.tree root)) issues).reporter.has key = true := by
  rw [reporter_start, Reporter.has_addAll]
  exact .inr (List.mem_filterMap.mpr ⟨i, List.mem_append_right _ hi, hkey⟩)

end Mount

namespace Session

variable {σ : Type}

/-! ## After the first rendering -/

/-- What the invocations of a mount leave in its notes. -/
def noted (i : Nat) (ledger : List Invocation) : List Issue :=
  ledger.filterMap fun v => if v.mount = i then v.issue? else none

theorem noted_concat (i : Nat) (ledger : List Invocation) (v : Invocation) :
    noted i (ledger ++ [v]) =
      noted i ledger ++ (if v.mount = i then v.issue? else none).toList := by
  rw [noted, List.filterMap_append, List.filterMap_cons, List.filterMap_nil]
  cases (if v.mount = i then v.issue? else none) <;> rfl

/-- Invocations are noted each time. -/
theorem onceId?_of_mem_noted {i : Nat} {ledger : List Invocation} {issue : Issue}
    (h : issue ∈ noted i ledger) : issue.onceId? = none := by
  obtain ⟨v, -, hv⟩ := List.mem_filterMap.mp h
  split at hv
  · unfold Invocation.issue? at hv
    split at hv
    · obtain rfl := Option.some.inj hv
      rfl
    · cases hv
    · obtain rfl := Option.some.inj hv
      rfl
  · cases hv

/-- The mount has its definition, and beside what it started with only its invocations are noted. -/
def Tallied (i : Nat) (root : Node) (first : Reporter) (l : Ledgered σ) : Prop :=
  ∃ m, l.session.mounts[i]? = some m ∧ m.definition = some (.tree root) ∧
    m.reporter = first.addAll (noted i l.ledger)

section

variable {i : Nat} {root : Node} {first : Reporter}
  (hfirst : ∀ issue ∈ (Content.single root).issues ∅ "", ∀ key,
    issue.onceId? = some key → first.has key = true)
include hfirst

/-- No rendering finds anything that is not on record. -/
theorem addAll_issues (more : List Issue) (values : State) :
    (first.addAll more).addAll (Definition.issues? values (some (.tree root))) =
      first.addAll more := by
  refine Reporter.addAll_of_has fun issue hissue => ?_
  obtain ⟨key, hkey⟩ := Content.onceId?_of_mem_issues hissue
  have hempty := (Content.single root).issues_subset values "" hissue
  exact ⟨key, hkey, (Reporter.has_addAll ..).mpr (.inl (hfirst issue hempty key hkey))⟩

theorem booked_tallied : Booked (Tallied (σ := σ) i root first) where
  keeps := by
    rintro l s ⟨m, hm, hdefinition, hreporter⟩ hkeeps
    obtain ⟨m', hm', hrecord⟩ := hkeeps i m hm
    obtain ⟨hdefinition', hreporter'⟩ := Prod.mk.inj hrecord
    exact ⟨m', hm', hdefinition'.trans hdefinition, hreporter'.trans hreporter⟩
  render := by
    rintro l j _ ⟨m, hm, hdefinition, hreporter⟩ -
    by_cases hij : j = i
    · -- whatever this rendering finds, the first one did
      subst hij
      refine ⟨m.render, get?_update_self hm _, hdefinition, ?_⟩
      show m.reporter.addAll (Definition.issues? m.store.values m.definition) = _
      rw [hdefinition, hreporter]
      exact addAll_issues hfirst _ _
    · exact ⟨m, (get?_update_of_ne _ hij _).trans hm, hdefinition, hreporter⟩
  enter := by
    rintro l v ⟨m, hm, hdefinition, hreporter⟩
    by_cases hij : v.mount = i
    · have hissue : noted i (l.ledger ++ [v]) = noted i l.ledger ++ v.issue?.toList := by
        rw [noted_concat, if_pos hij]
      refine ⟨v.noteIn m, ?_, ?_, ?_⟩
      · show (l.session.update v.mount v.noteIn).mounts[i]? = _
        rw [hij]
        exact get?_update_self hm _
      · rw [← hdefinition, Invocation.noteIn]
        cases v.issue? <;> rfl
      · show (v.noteIn m).reporter = first.addAll (noted i (l.ledger ++ [v]))
        rw [hissue, Reporter.addAll_append, ← hreporter, Invocation.noteIn]
        cases v.issue? <;> rfl
    · have hissue : noted i (l.ledger ++ [v]) = noted i l.ledger := by
        rw [noted_concat, if_neg hij]
        exact List.append_nil _
      refine ⟨m, (get?_update_of_ne _ hij _).trans hm, hdefinition, ?_⟩
      show m.reporter = first.addAll (noted i (l.ledger ++ [v]))
      rw [hissue]
      exact hreporter

end

/-! ## The statement -/

/-- **Each fault of a mounted tree is noted once, however often it is rendered.** To what was wrong
when it was read the first rendering adds one note for each bound prop of each node and one for each
node whose type is no tag, all with the position of the node, and no two nodes have the same. After
that only invocations add notes, whatever code runs and however it ends: one for each that found no
callback and one for each whose handler failed. -/
theorem diagnostics_of_run (host : Host σ) (s : Session σ) {what : Mountable} {root : Node}
    {issues : List Issue} (hparse : what.parse = .ok (some (.tree root), issues)) :
    ∃ m first, Mounts host s what m ∧
      ((root.nodes []).map fun e => Position.ofChain e.1).Nodup ∧
      first.Perm ((root.nodes []).flatMap Node.firstIssues) ∧
      m.reporter.diagnostics = (issues ++ first).map m.noteOf ∧
      ∀ (depth : Nat) (code : Session σ → Code σ),
        let start := s.unmount.start m
        let plain := ((code start).run (perform host depth)).runIn start
        let ledgered := Ledgered.run host depth start code
        ledgered.1 = plain.1 ∧ ledgered.2.session = plain.2 ∧
        ∃ m', plain.2.mounts[s.mounts.length]? = some m' ∧
          m'.reporter.diagnostics = m.reporter.diagnostics ++
            (noted s.mounts.length ledgered.2.ledger).map m.noteOf ∧
          ∀ values, m'.reporter.addAll (Definition.issues? values m'.definition) = m'.reporter := by
  have hreading := what.ofReading_parse _ _ hparse
  have hmounts := mount_of_ok host s (Mountable.isNull_of_parse hparse) hparse
  have hfirst : ∀ issue ∈ (Content.single root).issues ∅ "", ∀ key, issue.onceId? = some key →
      (Mount.start (host.mountId s.mounts.length) (some (.tree root)) issues).reporter.has key =
        true := fun issue hissue key hkey => Mount.has_start hissue hkey
  have hdiagnostics := Mount.diagnostics_start (host.mountId s.mounts.length) root hreading
  have hdefinition :
      (Mount.start (host.mountId s.mounts.length) (some (.tree root)) issues).definition =
        some (.tree root) := rfl
  -- from here on only its definition and its notes matter
  generalize Mount.start (host.mountId s.mounts.length) (some (.tree root)) issues = m
    at hmounts hfirst hdiagnostics hdefinition
  have hperm := (Content.single root).issues_perm ∅
  rw [funext Node.issuesAt_empty] at hperm
  refine ⟨m, _, hmounts, ?_, hperm, hdiagnostics, fun depth code => ?_⟩
  · refine List.pairwise_map.mpr ((List.pairwise_map.mp (root.nodup_nodes []).1).imp ?_)
    exact fun hne h => hne (Position.ofChain_injective h)
  · have hget : (s.unmount.start m).mounts[s.mounts.length]? = some m := by
      rw [Session.start, ← length_unmount s, List.getElem?_concat_length]
    have hstart : Tallied s.mounts.length root m.reporter ⟨s.unmount.start m, []⟩ :=
      ⟨m, hget, hdefinition, rfl⟩
    obtain ⟨hresult, hsession, m', hm', hdefinition', hreporter⟩ :=
      (booked_tallied hfirst).run host depth hstart code
    rw [hsession] at hm'
    refine ⟨hresult, hsession, m', hm', ?_, fun values => ?_⟩
    · -- what invocations leave is filed under nothing, and so never held back
      have hnone : (noted s.mounts.length (Ledgered.run host depth (s.unmount.start m)
          code).2.ledger).filterMap Issue.onceId? = [] :=
        List.filterMap_eq_nil_iff.mpr fun issue hissue => onceId?_of_mem_noted hissue
      rw [hreporter, Reporter.diagnostics_addAll (by rw [hnone]; exact List.forall_mem_nil _)
        (by rw [hnone]; exact List.nodup_nil)]
      rfl
    · rw [hdefinition', hreporter]
      exact addAll_issues hfirst _ _

/-- A host that does not stand a change of the key `armed`. -/
def touchyHost : Host Unit where
  mountId _ := "m"
  onEvent := none
  onChange _ _ changes _ :=
    if changes.contains (.text "armed") then .raise (.failure "boom") else .done

/-- An unknown type around a void tag with a child, with bindings above and below the void tag. -/
def boundBox : Node :=
  let arm := { EventDescriptor.inert with
    updates := some (Dict.ofList [("armed", .const (.bool true))]) }
  let hidden : Node := ⟨"p", ∅, .empty, ∅, Dict.ofList [("title", "name")]⟩
  let field : Node := ⟨"input", ∅, .single hidden, ∅, Dict.ofList [("value", "name")]⟩
  ⟨"box", ∅, .many [.empty, .single field], Dict.ofList [("onClick", arm)], ∅⟩

/-- Invokes a key that is not there, fails in a handler twice, and sets what was unset. -/
def boundBoxCode (_ : Session Unit) : Code Unit :=
  .ask (.subscribe 0 7) fun _ _ => .ask (.invoke 0 (.text "1.onClick") {}) fun _ _ =>
    .ask (.invoke 0 (.text "onClick") {}) fun _ _ =>
    .ask (.merge 0 (.obj [("name", .str "a")])) fun _ _ =>
    .ask (.invoke 0 (.text "onClick") {}) fun _ _ => .done

/-- The tree is rendered four times, and each of its faults is noted once. -/
theorem diagnostics_of_run_boundBox :
    ∃ m m' : Mount, Mounts touchyHost (new ()) (.node boundBox) m ∧
      (((boundBoxCode (start (new ()) m)).run (perform touchyHost 2)).runIn
        (start (new ()) m)).2.mounts[0]? = some m' ∧
      m.reporter.diagnostics.map (fun d => (d.code, d.details.get? "path")) =
        [(.str "binding.missing", some (.str "1")), (.str "binding.missing", some (.str "1.0")),
          (.str "render.unknown_tag", some (.str ""))] ∧
      m'.renderCount = 4 ∧
      m'.reporter.diagnostics.map Diagnostic.code =
        m.reporter.diagnostics.map Diagnostic.code ++
          [.str "event.unknown_callback", .str "event.handler", .str "event.handler"] := by
  have hparse : (Mountable.node boundBox).parse = .ok (some (.tree boundBox), []) := rfl
  obtain ⟨m, first, hmounts, -, -, -, hrun⟩ := diagnostics_of_run touchyHost (new ()) hparse
  obtain rfl : Mount.start "m" (some (.tree boundBox)) [] = m := by
    have hstarted := (mount_of_ok touchyHost (new ()) rfl hparse).symm.trans hmounts
    exact Option.some.inj (congrArg (fun r => r.2.mounts[0]?) hstarted)
  obtain ⟨-, -, m', hm', hdiagnostics, -⟩ := hrun 2 boundBoxCode
  have hcount : m'.renderCount = 4 := by
    obtain rfl := Option.some.inj hm'
    rfl
  refine ⟨_, m', hmounts, hm', by decide +kernel, hcount, ?_⟩
  rw [hdiagnostics, List.map_append]
  rfl

end Session

end AssistantUI
