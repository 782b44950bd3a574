import AssistantUI.Proofs.Act
import AssistantUI.Proofs.Dict
import AssistantUI.Proofs.Reporter
import Mathlib.Data.List.DropRight
import Mathlib.Data.List.Induction

/-!
# What host code files

Code of the host files reports with a reporter, some of them under a key, and now and then has it
forget everything. A reporter keeps two things: the notes themselves, and a table of the notes that
are not to be repeated. The table is only ever looked into for a filing that has a key, and it has
to know every such filing since all was forgotten, the repeated ones included. It does, though it
has an entry for the first of them only: those that repeat the same filing repeat each other
(`find?_news`).

`Keeps` says that notes and table are in step. Every filing and every clearing preserves it, and
what comes of the next filing is read off it (`filed_once`).
-/

namespace AssistantUI

/-- A report as host code files it; details, fault and key may be left out. -/
structure Filing where
  code : String
  message : Json
  details? : Option (Dict String Json)
  fault? : Option Fault
  key? : Option String

namespace Filing

/-- The details that are given. -/
def given (f : Filing) : Dict String Json := f.details?.getD ∅

/-- The report that is filed. -/
def report (f : Filing) : Report where
  code := .str f.code
  message := f.message
  details := f.given
  fault? := f.fault?
  onceKey? := f.key?.map .str

/-- Filing it, with null for what is left out. -/
def act (f : Filing) : Act Reporter Diagnostic :=
  Reporter.file (.str f.code) f.message ((f.details?.map .ofDict).getD .null)
    ((f.key?.map .str).getD .null) f.fault?

/-- The note that a reporter of the given name makes of it. -/
def note (mountId : Option String) (f : Filing) : Diagnostic :=
  Reporter.note { mountId := mountId.map .str } f.report

/-- The code and the key under which it is noted only once. -/
def onceId? (f : Filing) : Option (String × String) := f.key?.map fun key => (f.code, key)

/-- Does it have a key, and the same code and key as the other one? -/
def repeats (f g : Filing) : Bool := f.onceId?.isSome && f.onceId? == g.onceId?

/-- Of some filings, those that repeat neither an earlier one nor one before them. -/
def newsAfter (earlier : List Filing) : List Filing → List Filing
  | [] => []
  | f :: rest => (if earlier.any f.repeats then [] else [f]) ++ newsAfter (earlier ++ [f]) rest

/-- Of some filings, those that repeat none before them. -/
def news (fs : List Filing) : List Filing := newsAfter [] fs

/-! ## Filings that repeat others -/

theorem repeats_iff {f g : Filing} :
    f.repeats g = true ↔ ∃ id, f.onceId? = some id ∧ g.onceId? = some id := by
  unfold repeats
  cases f.onceId? with
  | none => simp
  | some id => simp [eq_comm (a := some id)]

theorem repeats_trans {f g h : Filing} (hfg : f.repeats g = true) (hgh : g.repeats h = true) :
    f.repeats h = true := by
  obtain ⟨id, hf, hg⟩ := repeats_iff.mp hfg
  obtain ⟨id', hg', hh⟩ := repeats_iff.mp hgh
  obtain rfl := Option.some.inj (hg.symm.trans hg')
  exact repeats_iff.mpr ⟨id, hf, hh⟩

theorem newsAfter_concat (earlier fs : List Filing) (f : Filing) :
    newsAfter earlier (fs ++ [f]) =
      newsAfter earlier fs ++ if (earlier ++ fs).any f.repeats then [] else [f] := by
  induction fs generalizing earlier with
  | nil => simp [newsAfter]
  | cons g rest ih => simp [newsAfter, ih]

theorem news_concat (fs : List Filing) (f : Filing) :
    news (fs ++ [f]) = news fs ++ if fs.any f.repeats then [] else [f] :=
  newsAfter_concat [] fs f

/-- **What a filing repeats is found among the news**, and it is the first one that it repeats. -/
theorem find?_news (f : Filing) (fs : List Filing) :
    (news fs).find? f.repeats = fs.find? f.repeats := by
  induction fs using List.reverseRecOn with
  | nil => rfl
  | append_singleton fs g ih =>
    rw [news_concat, List.find?_append, List.find?_append, ih]
    by_cases hg : fs.any g.repeats = true
    · rw [if_pos hg]
      by_cases hf : f.repeats g = true
      · -- `g` is no news, so what it repeats was found before it
        obtain ⟨h, hh, hgh⟩ := List.any_eq_true.mp hg
        have hsome : (fs.find? f.repeats).isSome = true :=
          List.find?_isSome.mpr ⟨h, hh, repeats_trans hf hgh⟩
        obtain ⟨first, hfirst⟩ := Option.isSome_iff_exists.mp hsome
        rw [hfirst]
        rfl
      · simp [hf]
    · rw [if_neg hg]

/-! ## Filing with a reporter -/

variable {mountId : Option String}

theorem detailsOf_given (f : Filing) :
    Reporter.detailsOf ((f.details?.map .ofDict).getD .null) = .ok f.given := by
  unfold given
  cases f.details? with
  | none => rfl
  | some d =>
    have hkeys : Dict.ofList (d.entries.map fun e => (Key.text e.1, e.2)) = State.ofTexts d := by
      have hmap := Dict.mapKeys_insertList Key.text_beq_text
        (fun j k h => by simpa using h) Dict.empty d.entries
      rw [← Dict.ofList, Dict.ofList_entries] at hmap
      exact hmap.symm
    have hshown : (State.ofTexts d).entries.map (fun e => (e.1.display, e.2)) = d.entries := by
      rw [State.ofTexts, Dict.entries_mapKeys, List.map_map]
      exact List.map_id _
    have hdetails : Reporter.detailsOf (.ofDict d) = .ok (Dict.ofList
        ((Dict.ofList (d.entries.map fun e => (Key.text e.1, e.2))).entries.map
          fun e => (e.1.display, e.2))) := rfl
    rw [Option.map_some, Option.getD_some, Option.getD_some, hdetails, hkeys, hshown,
      Dict.ofList_entries]

/-- A filing is recorded as a report, and nothing can go wrong with it. -/
theorem runIn_act (f : Filing) (r : Reporter) :
    f.act.runIn r = (.ok (r.record f.report).1, (r.record f.report).2) := by
  unfold act Reporter.file
  rw [detailsOf_given]
  unfold Reporter.record report
  cases f.key? with
  | none => rfl
  | some key =>
    have hget : (get : Act Reporter Reporter).runIn r = (.ok r, r) := rfl
    have hsome : (pure (some (.str key)) : Act Reporter (Option Json)).runIn r =
        (.ok (some (.str key)), r) := rfl
    have hkey (s : String) : (liftM (Json.str s).toKey : Act Reporter Key).runIn r =
        (.ok (.text s), r) := rfl
    -- neither the code nor the key is a fault, so all depends on what is on record for them
    simp only [Option.map_some, Option.getD_some, Act.runIn_bind, hkey, hsome, hget,
      Option.bind_some]
    cases r.seen? (.str f.code) (.str key) with
    | none => rfl
    | some d => rfl

/-- The entry of a filing in the table of what is not to be repeated. -/
def entry? (mountId : Option String) (f : Filing) : Option ((Json × Json) × Diagnostic) :=
  f.key?.map fun key => ((.str f.code, .str key), f.note mountId)

theorem entries_details_note (mountId : Option String) (f : Filing) :
    (f.note mountId).details.entries = f.given.entries ++
      match mountId with
      | some id => if f.given.contains "mount_id" then [] else [("mount_id", .str id)]
      | none => [] := by
  cases mountId with
  | none => exact (List.append_nil _).symm
  | some id => exact Dict.entries_insertNew ..

/-- What is looked for in the table on behalf of a filing is a filing that it repeats. -/
theorem any_entry? {f : Filing} {key : String} (hkey : f.key? = some key)
    (mountId : Option String) (g : Filing) :
    (g.entry? mountId).any (fun e => e.1.1.alike (.str f.code) && e.1.2.alike (.str key)) =
      f.repeats g := by
  rw [Bool.eq_iff_iff, repeats_iff]
  unfold entry? onceId?
  rw [hkey]
  cases g.key? with
  | none => simp
  | some key' => simp [Json.alike_str]

end Filing

/-! ## Notes and table in step -/

namespace Reporter

/-- Of these filings, the reporter of a mount noted those that are news, and has the ones with a key
among them in its table. -/
structure Keeps (id : Option String) (fs : List Filing) (r : Reporter) : Prop where
  mountId : r.mountId = id.map .str
  diagnostics : r.diagnostics = (Filing.news fs).map (Filing.note id)
  seen : r.seen = (Filing.news fs).filterMap (Filing.entry? id)

theorem keeps_new (id : Option String) : Keeps id [] { mountId := id.map .str } := ⟨rfl, rfl, rfl⟩

variable {id : Option String} {fs : List Filing} {r : Reporter}

theorem Keeps.clear (h : r.Keeps id fs) : r.clear.Keeps id [] := ⟨h.mountId, rfl, rfl⟩

theorem Keeps.note (h : r.Keeps id fs) (f : Filing) : r.note f.report = f.note id :=
  note_of_mountId (r := { mountId := id.map .str }) h.mountId f.report

/-- What is on record for a filing is the note of the first one that it repeats. -/
theorem Keeps.seen? (h : r.Keeps id fs) (f : Filing) :
    f.report.onceKey?.bind (r.seen? f.report.code) =
      (fs.find? f.repeats).map (Filing.note id) := by
  show (f.key?.map Json.str).bind (r.seen? (.str f.code)) = _
  cases hkey : f.key? with
  | none =>
    have hnone : fs.find? f.repeats = none := by
      rw [List.find?_eq_none]
      intro g hg
      simp [Filing.repeats, Filing.onceId?, hkey]
    rw [hnone]
    rfl
  | some key =>
    have hlook : (fun g => (Filing.entry? id g).any fun e =>
        e.1.1.alike (.str f.code) && e.1.2.alike (.str key)) = f.repeats :=
      funext fun g => Filing.any_entry? hkey id g
    rw [Option.map_some, Option.bind_some, Reporter.seen?, h.seen, List.find?_filterMap, hlook,
      Filing.find?_news]
    cases hfirst : fs.find? f.repeats with
    | none => rfl
    | some first =>
      -- what is repeated has a key
      obtain ⟨_, -, hid⟩ := Filing.repeats_iff.mp (List.find?_some hfirst)
      unfold Filing.onceId? at hid
      obtain ⟨key', hkey', -⟩ := Option.map_eq_some_iff.mp hid
      simp [Filing.entry?, hkey']

/-- **One filing.** If it repeats another one, the reporter gives the note of the first such and is
left as it is; if not, it notes the filing. -/
theorem Keeps.record (h : r.Keeps id fs) (f : Filing) : r.record f.report =
    match fs.find? f.repeats with
    | some first => (first.note id, r)
    | none => (f.note id, r.append f.report) := by
  rw [Reporter.record, h.seen? f]
  cases fs.find? f.repeats with
  | some first => rfl
  | none =>
    rw [← h.note f]
    rfl

/-- Notes and table stay in step. -/
theorem Keeps.step (h : r.Keeps id fs) (f : Filing) :
    (r.record f.report).2.Keeps id (fs ++ [f]) := by
  rw [h.record f]
  cases hfirst : fs.find? f.repeats with
  | some first =>
    have hany : fs.any f.repeats = true :=
      List.any_eq_true.mpr ⟨first, List.mem_of_find?_eq_some hfirst, List.find?_some hfirst⟩
    have hnews : Filing.news (fs ++ [f]) = Filing.news fs := by
      rw [Filing.news_concat, if_pos hany, List.append_nil]
    refine ⟨h.mountId, ?_, ?_⟩
    · rw [hnews]
      exact h.diagnostics
    · rw [hnews]
      exact h.seen
  | none =>
    have hnot : ¬fs.any f.repeats = true := by
      rw [List.any_eq_true]
      rintro ⟨g, hg, hrepeats⟩
      exact List.find?_eq_none.mp hfirst g hg hrepeats
    have hnews : Filing.news (fs ++ [f]) = Filing.news fs ++ [f] := by
      rw [Filing.news_concat, if_neg hnot]
    refine ⟨h.mountId, ?_, ?_⟩
    · rw [hnews, List.map_append, ← h.diagnostics]
      exact congrArg (fun d => r.diagnostics ++ [d]) (h.note f)
    · rw [hnews, List.filterMap_append, ← h.seen]
      show (r.append f.report).seen = _
      rw [seen_append, h.note f, List.filterMap_cons, Filing.entry?, Filing.report]
      cases f.key? with
      | none => rfl
      | some key => rfl

/-! ## Runs -/

/-- What host code asks of a reporter. -/
inductive Request where
  | file (f : Filing)
  | clear

/-- The filing that is asked for. -/
def Request.filing? : Request → Option Filing
  | file f => some f
  | clear => none

/-- The reporter after a request. -/
def follow (r : Reporter) : Request → Reporter
  | .file f => (f.act.runIn r).2
  | .clear => r.clear

/-- The reporter of a mount after some requests. -/
def after (id : Option String) (requests : List Request) : Reporter :=
  requests.foldl follow { mountId := id.map .str }

/-- The filings since the last clearing. -/
def sinceClear (requests : List Request) : List Filing :=
  (requests.rtakeWhile fun q => q.filing?.isSome).filterMap Request.filing?

theorem keeps_after (id : Option String) (requests : List Request) :
    (after id requests).Keeps id (sinceClear requests) := by
  induction requests using List.reverseRecOn with
  | nil => exact keeps_new id
  | append_singleton requests q ih =>
    have hafter : after id (requests ++ [q]) = (after id requests).follow q := by
      simp [after]
    rw [hafter]
    cases q with
    | file f =>
      have hsince : sinceClear (requests ++ [.file f]) = sinceClear requests ++ [f] := by
        simp [sinceClear, Request.filing?]
      rw [hsince, follow, Filing.runIn_act]
      exact ih.step f
    | clear =>
      have hsince : sinceClear (requests ++ [.clear]) = [] := by
        simp [sinceClear, Request.filing?]
      rw [hsince]
      exact ih.clear

/--
**What is filed is noted once.** After any requests, the notes are those of the filings since the
last clearing that repeat none before them, in order, and the notes under a code are picked out of
them. A filing that repeats another one is answered by the note of the first such and changes
nothing; any other is answered by its own note, which is added behind the others. A note says what
was filed, and its details are those that were given, with the name of the mount behind them if
there is one and they do not have a `mount_id` themselves.
-/
theorem filed_once (id : Option String) (requests : List Request) :
    let r := after id requests
    let fs := sinceClear requests
    r.diagnostics = (Filing.news fs).map (Filing.note id) ∧
    (∀ code : String, r.byCode (.str code) = r.diagnostics.filter fun d => d.code = .str code) ∧
    (∀ f : Filing, match fs.find? f.repeats with
      | some first => first ∈ Filing.news fs ∧ f.act.runIn r = (.ok (first.note id), r)
      | none => (f.act.runIn r).1 = .ok (f.note id) ∧
        (f.act.runIn r).2.diagnostics = r.diagnostics ++ [f.note id]) ∧
    ∀ f : Filing, (f.note id).code = .str f.code ∧ (f.note id).message = f.message ∧
      (f.note id).stack = f.fault?.map Fault.describe ∧
      (f.note id).details.entries = f.given.entries ++
        match id with
        | some id => if f.given.contains "mount_id" then [] else [("mount_id", .str id)]
        | none => [] := by
  intro r fs
  have hkeeps : r.Keeps id fs := keeps_after id requests
  refine ⟨hkeeps.diagnostics, ?_, ?_, ?_⟩
  · intro code
    exact List.filter_congr fun d _ => d.code.alike_str code
  · intro f
    rw [Filing.runIn_act, hkeeps.record f]
    cases hfirst : fs.find? f.repeats with
    | some first =>
      have hnews : (Filing.news fs).find? f.repeats = some first := by
        rw [Filing.find?_news, hfirst]
      exact ⟨List.mem_of_find?_eq_some hnews, rfl⟩
    | none =>
      refine ⟨rfl, ?_⟩
      show r.diagnostics ++ [r.note f.report] = _
      rw [hkeeps.note f]
  · intro f
    exact ⟨rfl, rfl, rfl, Filing.entries_details_note id f⟩

end Reporter

end AssistantUI
