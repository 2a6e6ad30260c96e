import Preflight.CommandLine
import Preflight.Proofs.Document.Refusals
import Preflight.Proofs.Files
import Preflight.Proofs.Files.Directories
import Preflight.Proofs.Json.Overlong
import Preflight.Proofs.Pass.Indistinct
import Preflight.Proofs.Service.Requests
import Preflight.Proofs.Settings
import Preflight.Value.Equality

/-!
One document, judged by the command line and by the service. Both read it, build a vehicle and run a pass, each with
its own way of refusing, and they come to the same end.
-/
namespace Preflight

variable {σ τ : Type} {items : List Item}

theorem Checker.verdict_of_holds {c : Checker σ} {read : Source τ} (hposition : c.hasPosition = Item.hasPosition)
    {mission mission' : Mission} {store : σ} {store' : τ} (hheld : c.Holds mission items store)
    (hheld' : (c.withSource read).Holds mission' items store') (limits : Limits) :
    (c.check mission limits store).verdict = ((c.withSource read).check mission' limits store').verdict := by
  apply verdict_congr hposition hheld hheld'
  rw [List.forall₂_same]
  intro item _
  exact .refl c.vehicle item

theorem checkItems_verdict (ids ids' : Ids) (items : List Item) (vehicle : Vehicle) (fence : Geofence)
    (limits : Limits) :
    (checkItems ids items vehicle fence limits).1.verdict = (checkItems ids' items vehicle fence limits).1.verdict := by
  have held {c : Checker MemoryStore} (hread : c.read = MemoryStore.read) (id : String) :
      c.Holds (MemoryStore.handle id items) items (MemoryStore.insert {} id items) :=
    Checker.holds_memory hread (MemoryStore.find?_insert_self {} id items)
  exact Checker.verdict_of_holds rfl (held rfl ids.next.1) (held rfl ids'.next.1) limits

theorem Document.refused_of_not_given {v : Value} (h : v.isGiven = false) :
    ∃ reason, ofValue v = .error (.invalid reason) := by
  cases v with
  | mapping entries =>
    have empty : entries = [] := by simpa [Value.isGiven] using h
    rw [empty]
    exact ⟨"mission has no items", rfl⟩
  | _ => exact ⟨"mission data must be an object", rfl⟩

namespace CommandLine

variable {world : Surroundings} {fields : Entries} {s : Started}

theorem append_of_prepare {files files' : FileTree} {text path : String}
    (h : Log.Journal.prepare files text = .ok (path, files')) (octets : List UInt8) :
    ∃ files'', files'.append path octets = .ok files'' := by
  unfold Log.Journal.prepare at h
  obtain ⟨made, -, h⟩ := Fault.bind_ok h
  obtain ⟨appended, happend, h⟩ := Fault.bind_ok h
  obtain ⟨rfl, rfl⟩ := Prod.mk.inj (Except.ok.inj h)
  exact FileTree.update_update happend _

theorem write_of_openWith {files files' : FileTree} {level file format : Value} {journal : Log.Journal}
    (h : Log.Journal.openWith files level file format = .ok (journal, files')) (texts : List String) :
    ∃ files'', journal.write files' texts = .ok files'' := by
  unfold Log.Journal.openWith at h
  obtain ⟨format, -, h⟩ := Fault.bind_ok h
  dsimp only at h
  split at h
  · cases h
  · obtain ⟨level, -, h⟩ := Fault.bind_ok h
    obtain ⟨named, -, h⟩ := Fault.bind_ok h
    cases named with
    | none =>
      cases h
      exact ⟨_, rfl⟩
    | some text =>
      obtain ⟨⟨path, prepared⟩, hprepared, h⟩ := Fault.bind_ok h
      cases h
      unfold Log.Journal.write
      dsimp only
      split
      · exact ⟨_, rfl⟩
      · exact append_of_prepare hprepared _

theorem finish_of_start (started : start world fields = .ok s) (exit : Nat) (log : List Log.Line)
    (messages : List String) (output : String) :
    ∃ run, s.finish exit log messages output = .ok run ∧ run.exit = exit ∧ run.output = output := by
  unfold start at started
  obtain ⟨settings, -, started⟩ := Fault.bind_ok started
  obtain ⟨⟨journal, files⟩, opened, started⟩ := Fault.bind_ok started
  cases started
  obtain ⟨files', written⟩ := write_of_openWith opened (journal.render world.stamp log)
  unfold Started.finish
  dsimp only
  rw [written]
  exact ⟨_, rfl, rfl, rfl⟩

namespace Started

structure AsksPlainly (s : Started) : Prop where
  json : (s.field "json").isGiven = true
  home : s.field "home" = .null
  overrides : ∀ option ∈ overridingOptions, s.field option.1 = .null
  limits : s.field "max_first_wp_dist" = .null ∧ s.field "max_wp_dist" = .null

variable (plain : s.AsksPlainly)

include plain

theorem home_of_plain (d : Document) : s.home d = .ok d.home := by
  rw [home, plain.home]
  rfl

theorem overrides_of_plain : s.overrides = .mapping [] := by
  rw [overrides, List.filterMap_eq_nil_iff.mpr]
  intro option hoption
  simp [plain.overrides option hoption, isNull]

theorem limits_of_plain : s.limits = s.settings.limits := by
  rw [limits]
  dsimp only
  rw [plain.limits.1, plain.limits.2]
  rfl

theorem shown_of_plain (path : String) (d : Document) (v : Verdict) :
    s.shown path d v = (do return Json.pretty (← v.toValue) ++ "\n") := by
  rw [shown, if_pos plain.json]

end Started

end CommandLine

def Value.Lacks (v : Value) (key : String) : Prop := ∀ entries : Entries, v = .mapping entries → entries.get? key = none

theorem getD_of_lacks {v : Value} {key : String} {entries : Entries} (h : v.Lacks key) (hv : v = .mapping entries)
    (default : Value) : v.getD key default = .ok default := by
  have absent := h entries hv
  subst hv
  rw [Value.getD_mapping, Entries.getD, absent]
  rfl

structure Value.LeavesSettings (v : Value) : Prop where
  vehicle : v.Lacks "vehicle"
  first : v.Lacks "max_distance_to_first_waypoint"
  between : v.Lacks "max_distance_between_waypoints"

theorem Document.mapping_of_ofValue {v : Value} {d : Document} (h : ofValue v = .ok d) :
    ∃ entries, v = .mapping entries := by
  cases v with
  | mapping entries => exact ⟨entries, rfl⟩
  | _ => cases h

namespace Service

variable {s : Service} {v : Value}

theorem limits_of_lacks (declared : s.settings.IsDeclared) (leaves : v.LeavesSettings) {entries : Entries}
    (hv : v = .mapping entries) : s.limits v = .ok s.settings.limits := by
  obtain ⟨first, between, hlimits, hfirst, hbetween⟩ := Settings.limits_declared declared
  unfold limits limit
  rw [getD_of_lacks leaves.first hv, getD_of_lacks leaves.between hv, hfirst, hbetween, hlimits]
  rfl

theorem readCheck_of_lacks (declared : s.settings.IsDeclared) (leaves : v.LeavesSettings) {d : Document}
    (h : Document.ofValue v = .ok d) : s.readCheck v =
      (do return (d, ← s.settings.vehicleWith d.home .null, s.settings.limits)) := by
  obtain ⟨entries, hv⟩ := Document.mapping_of_ofValue h
  unfold readCheck vehicle
  rw [h, limits_of_lacks declared leaves hv]
  change (v.getD "vehicle" .null >>= _) >>= _ = _
  rw [getD_of_lacks leaves.vehicle hv]
  rfl

end Service

namespace Response

def accepts : Except Fault Response → Bool
  | .ok ⟨200, some document⟩ => decide (document.get? "accepted" = .ok (some (.boolean true)))
  | _ => false

theorem ok_of_accepts {reply : Except Fault Response} (h : accepts reply = true) :
    ∃ document, reply = .ok ⟨200, some document⟩ ∧ document.get? "accepted" = .ok (some (.boolean true)) := by
  unfold accepts at h
  split at h
  next document => exact ⟨document, rfl, of_decide_eq_true h⟩
  next => cases h

end Response

/-- A run of the command line and a reply of the service that come to the same: the same report, with the exit code
that goes with it; a refusal on both sides; or the same fault. -/
inductive Agreement (ran : Except Fault CommandLine.Run) (reply : Except Fault Response) : Prop
  | judged {run : CommandLine.Run} {verdict : Verdict} {document : Value} (ended : ran = .ok run)
    (reported : verdict.toValue = .ok document)
    (exit : run.exit = if verdict.accepted then CommandLine.accepted else CommandLine.rejected)
    (printed : run.output = Json.pretty document ++ "\n") (replied : reply = .ok (.ok document)) : Agreement ran reply
  | refused {run : CommandLine.Run} {reason : String} (ended : ran = .ok run) (exit : run.exit = CommandLine.notChecked)
    (replied : reply = .ok (.refusal 400 reason)) : Agreement ran reply
  | raised {fault : Fault} (ended : ran = .error fault) (replied : reply = .error fault) : Agreement ran reply

section

open CommandLine

variable {world : Surroundings} {fields : Entries} {s : Started} {service : Service} {v : Value}

section

variable (started : start world fields = .ok s) (plain : s.AsksPlainly)

include started

theorem refuse_of_start (log : List Log.Line) (reason : String) :
    ∃ run, s.refuse log reason = .ok run ∧ run.exit = notChecked := by
  obtain ⟨run, ended, exit, -⟩ := finish_of_start started notChecked log
    [Report.paint s.colors .red s!"Error: {reason}"] ""
  exact ⟨run, ended, exit⟩

include plain

theorem agreement_of_verdict {verdict : Except Fault Verdict} {d : Document} (path : String) (log : List Log.Line) :
    Agreement (do
      let verdict ← verdict
      let output ← s.shown path d verdict
      s.finish (if verdict.accepted then accepted else rejected) log [] output) (Service.told verdict) := by
  cases verdict with
  | error fault => exact .raised rfl rfl
  | ok verdict =>
    change Agreement (s.shown path d verdict >>= fun output =>
      s.finish (if verdict.accepted then accepted else rejected) log [] output) _
    rw [Started.shown_of_plain plain]
    cases hdocument : verdict.toValue with
    | error fault =>
      have told : Service.told (.ok verdict) = .error fault := by
        change verdict.toValue >>= _ = _
        rw [hdocument]
        rfl
      exact .raised rfl told
    | ok document =>
      have told : Service.told (.ok verdict) = .ok (.ok document) := by
        change verdict.toValue >>= _ = _
        rw [hdocument]
        rfl
      obtain ⟨run, ended, exit, printed⟩ := finish_of_start started
        (if verdict.accepted then accepted else rejected) log [] (Json.pretty document ++ "\n")
      exact .judged ended hdocument exit printed told

theorem agreement_of_document (declared : s.settings.IsDeclared) (same : service.settings = s.settings)
    (leaves : v.LeavesSettings) {d : Document} (h : Document.ofValue v = .ok d) (given : v.isGiven = true)
    (path : String) (log : List Log.Line) :
    Agreement (s.checkDocument path d log) (service.checkDocument v).1 := by
  have declared' : service.settings.IsDeclared := same ▸ declared
  unfold CommandLine.Started.checkDocument Service.checkDocument
  rw [Started.home_of_plain plain, Started.overrides_of_plain plain, Started.limits_of_plain plain,
    Service.readCheck_of_lacks declared' leaves h, given, same]
  rw [Fault.ok_bind, Settings.vehicleWith_nothing]
  rcases Settings.vehicleWith_declared declared d.home with ⟨vehicle, found⟩ | ⟨shown, found⟩
  · rw [found]
    have alike := checkItems_verdict service.ids {} d.items vehicle d.fence s.settings.limits
    change Agreement _ (Service.told (checkItems service.ids d.items vehicle d.fence s.settings.limits).1.verdict)
    rw [alike]
    exact agreement_of_verdict started plain path _
  · rw [found]
    obtain ⟨run, ended, exit⟩ := refuse_of_start started log (Fault.unknownVehicle shown).message
    exact .refused ended exit rfl

end

theorem checkDocument_of_fault (service : Service) {fault : Fault} (short : v.holdsLong = false)
    (h : Document.ofValue v = .error fault) (given : v.isGiven = true) :
    (service.checkDocument v).1 = match fault with
      | .invalid reason => .ok (.refusal 400 reason)
      | fault => .error fault := by
  have refused : (service.checkDocument v).1 = Response.refusing Service.checkRefusals fault := by
    unfold Service.checkDocument Service.readCheck
    rw [h, given]
    rfl
  rw [refused, Response.refusing]
  rcases Document.keeps_ofValue short fault h with invalid | stray
  · obtain ⟨reason, rfl⟩ := Fault.invalid_of_isAmong invalid
    rfl
  · rw [not_among_of_isStray (by decide) stray]
    cases fault with
    | invalid reason => cases stray
    | _ => rfl

def CommandLine.Started.Opens (s : Started) (v : Value) : Prop :=
  s.surroundings.files.readJson (Path.ofText (s.field "file").display).toText = .ok v

theorem opens_of_letters {text : String} {cs : List Char}
    (there : s.surroundings.files.read (Path.ofText (s.field "file").display).toText = .ok (Utf8.octets text))
    (letters : text.toList = cs) (parsed : Json.parse (Utf8.unifyLineEnds cs) = .ok v) : s.Opens v := by
  rw [CommandLine.Started.Opens, FileTree.readJson, there, Fault.ok_bind, Utf8.text_octets, letters]
  exact parsed

theorem short_of_opens (opens : s.Opens v) : v.holdsLong = false := by
  unfold CommandLine.Started.Opens FileTree.readJson at opens
  obtain ⟨octets, -, opens⟩ := Fault.bind_ok opens
  obtain ⟨text, -, parsed⟩ := Fault.bind_ok opens
  exact Json.short_of_parse parsed

theorem load_of_opens (opens : s.Opens v) :
    Document.load s.surroundings.files (Path.ofText (s.field "file").display) = Document.ofValue v := by
  unfold Document.load
  rw [opens]
  rfl

theorem agreement (started : start world fields = .ok s) (plain : s.AsksPlainly) (declared : s.settings.IsDeclared)
    (same : service.settings = s.settings) (opens : s.Opens v) (leaves : v.LeavesSettings) :
    Agreement s.check (service.checkDocument v).1 := by
  have refuse (reason : String) := refuse_of_start started [] reason
  unfold CommandLine.Started.check
  dsimp only
  rw [load_of_opens opens]
  cases given : v.isGiven with
  | false =>
    obtain ⟨reason, h⟩ := Document.refused_of_not_given given
    obtain ⟨run, ended, exit⟩ := refuse reason
    rw [h]
    have replied : (service.checkDocument v).1 = .ok .noData := by
      rw [Service.checkDocument, given]
      rfl
    exact .refused ended exit replied
  | true =>
    cases h : Document.ofValue v with
    | ok d => exact agreement_of_document started plain declared same leaves h given _ _
    | error fault =>
      have replied := checkDocument_of_fault service (short_of_opens opens) h given
      cases fault with
      | invalid reason =>
        obtain ⟨run, ended, exit⟩ := refuse reason
        exact .refused ended exit replied
      | _ => exact .raised rfl replied

theorem accepted_of_toValue {verdict : Verdict} {document : Value} (h : verdict.toValue = .ok document) :
    document.get? "accepted" = .ok (some (.boolean verdict.accepted)) := by
  obtain ⟨diagnostics, -, h⟩ := Fault.bind_ok h
  cases h
  rfl

/-- The command line reports a document exactly where the service answers with it, refuses exactly where the service
sees a bad request, and breaks off exactly where the service does. -/
theorem check_agrees_with_service {r : Request} (started : start world fields = .ok s) (plain : s.AsksPlainly)
    (declared : s.settings.IsDeclared) (same : service.settings = s.settings) (opens : s.Opens v)
    (leaves : v.LeavesSettings) (posted : r.Posts "/api/missions/check" v) :
    ((∃ run, s.check = .ok run ∧ (run.exit = 0 ∨ run.exit = 1)) ↔
      ∃ document, (service.answer r).1 = .ok ⟨200, some document⟩) ∧
    (∀ run document, s.check = .ok run → (service.answer r).1 = .ok ⟨200, some document⟩ →
      run.output = Json.pretty document ++ "\n" ∧
        ∃ accepted, document.get? "accepted" = .ok (some (.boolean accepted)) ∧ (run.exit = 0 ↔ accepted = true)) ∧
    ((∃ run, s.check = .ok run ∧ run.exit = 2) ↔ ∃ document, (service.answer r).1 = .ok ⟨400, document⟩) ∧
    ∀ fault, s.check = .error fault ↔ (service.answer r).1 = .error fault := by
  rw [Service.answer_check posted]
  rcases agreement started plain declared same opens leaves with
    ⟨ended, reported, exit, printed, replied⟩ | ⟨ended, exit, replied⟩ | ⟨ended, replied⟩
  · next run verdict document =>
    have codes : (run.exit = 0 ↔ verdict.accepted = true) ∧ (run.exit = 1 ↔ verdict.accepted = false) ∧ run.exit ≠ 2 := by
      rw [exit]
      cases verdict.accepted <;> decide
    rw [ended, replied]
    simp [Response.ok, codes, printed, accepted_of_toValue reported]
  · rw [ended, replied]
    simp [Response.refusal, exit, notChecked]
  · rw [ended, replied]
    simp

set_option maxRecDepth 4000 in
theorem check_agrees_with_service_accepted :
    let text := "\x7b\"items\": [\x7b\"command\": 22, \"lat\": 47.39, \"lon\": 8.54, \"alt\": 50.0\x7d,
      \x7b\"command\": 16, \"lat\": 47.394, \"lon\": 8.545, \"alt\": 60.0\x7d],
      \"home\": \x7b\"lat\": 47.39, \"lon\": 8.54, \"alt\": 488.0\x7d, \"geofence\": \x7b\"circles\": [
      \x7b\"inclusion\": true, \"circle\": \x7b\"center\": [47.4, 8.5], \"radius\": 5000.0\x7d\x7d]\x7d\x7d"
    let item (code : Int) (lat lon altitude : Float) : Value :=
      .mapping [("command", .whole code), ("lat", .real lat), ("lon", .real lon), ("alt", .real altitude)]
    let v : Value := .mapping [("items", .list [item 22 47.39 8.54 50.0, item 16 47.394 8.545 60.0]),
      ("home", .mapping [("lat", .real 47.39), ("lon", .real 8.54), ("alt", .real 488.0)]),
      ("geofence", .mapping [("circles", .list [.mapping [("inclusion", .boolean true),
        ("circle", .mapping [("center", .list [.real 47.4, .real 8.5]), ("radius", .real 5000.0)])]])])]
    let world : Surroundings := { files := { nodes := [(["m.json"], .file (Utf8.octets text))] } }
    let fields : Entries := [("file", .text "m.json"), ("verbose", .boolean true), ("json", .boolean true)]
    let s : Started := { surroundings := world, journal := { level := Log.debug }, settings := {}, fields }
    let service : Service := { settings := {}, store := { directory := .ofText "missions", files := {} } }
    let r := Request.posting "/api/missions/check" text
    start world fields = .ok s ∧ s.Opens v ∧ r.Posts "/api/missions/check" v ∧
      ∃ document run, (service.answer r).1 = .ok ⟨200, some document⟩ ∧ s.check = .ok run ∧ run.exit = 0 ∧
        run.output = Json.pretty document ++ "\n" := by
  intro text item v world fields s service r
  have started : start world fields = .ok s := by rfl
  have plain : s.AsksPlainly := by
    refine ⟨rfl, rfl, ?_, rfl, rfl⟩
    intro option hoption
    simp only [Started.overridingOptions, List.mem_cons, List.not_mem_nil, or_false] at hoption
    rcases hoption with rfl | rfl | rfl | rfl | rfl <;> rfl
  have declared : s.settings.IsDeclared :=
    ⟨⟨_, rfl⟩, ⟨_, rfl⟩, ⟨_, rfl⟩, .inr ⟨_, rfl⟩, ⟨_, rfl⟩, ⟨_, rfl⟩, ⟨_, rfl⟩, ⟨_, rfl⟩⟩
  have opens : s.Opens v := by
    have name : FileTree.IsFileName "m.json" := by decide
    have there : world.files.read (Path.ofText "m.json").toText = .ok (Utf8.octets text) := by
      rw [Path.ofText_of_isName name.toIsName]
      exact FileTree.read_of_file (FileTree.place_name name rfl) rfl
    exact opens_of_letters there String.toList_ofList (by decide +kernel)
  have leaves : v.LeavesSettings := by
    refine ⟨?_, ?_, ?_⟩
    all_goals
      intro entries same
      obtain rfl := Value.mapping.inj same
      rfl
  have posted : r.Posts "/api/missions/check" v := Request.posts_posting String.toList_ofList (by decide +kernel)
  have judged : Response.accepts (service.checkDocument v).1 = true := by decide +kernel
  obtain ⟨document, replied, accepted⟩ := Response.ok_of_accepts judged
  have answered : (service.answer r).1 = .ok ⟨200, some document⟩ := by
    rw [Service.answer_check posted]
    exact replied
  have same : service.settings = s.settings := rfl
  obtain ⟨ends, alike, -, -⟩ := check_agrees_with_service started plain declared same opens leaves posted
  obtain ⟨run, ran, -⟩ := ends.mpr ⟨document, answered⟩
  obtain ⟨printed, verdict, given, exit⟩ := alike run document ran answered
  obtain rfl : verdict = true := by simpa using given.symm.trans accepted
  exact ⟨started, opens, posted, document, run, answered, ran, exit.mpr rfl, printed⟩

end

end Preflight
