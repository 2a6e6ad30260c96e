import Preflight.Proofs.Check.Worded
import Preflight.Proofs.Document.Refusals
import Preflight.Proofs.Service.Requests
import Preflight.Proofs.Settings.Overrides
import Preflight.Value.Equality

namespace Preflight

open Fault

namespace Service

variable {s : Service} {entries : Entries} {body : Value}

def heard (body : Value) : Value := if body.isGiven then body else .mapping []

def limitSlots (settings : Settings) (entries : Entries) : List Slot :=
  ["max_distance_to_first_waypoint", "max_distance_between_waypoints"].map fun name =>
    .real (some (entries.getD name (settings.get .feasibility name)))

/-- A body that confounds the reader: by being no mapping, by its home position, or else by its vehicle, or else by its
geofence, or else by its limits. -/
inductive BodyConfounds (settings : Settings) : Value → Prop
  | kind {v : Value} (odd : ∀ entries, v ≠ .mapping entries) : BodyConfounds settings v
  | home {entries : Entries} (confounds : Document.GivenUnder entries "home" Home.Confounds) :
    BodyConfounds settings (.mapping entries)
  | vehicle {entries values : Entries} (home : ∃ home, Home.underKey (.mapping entries) "home" = .ok home)
    (confounds : settings.VehicleConfounds (entries.getD "vehicle" .null) values) :
    BodyConfounds settings (.mapping entries)
  | fence {entries : Entries} {home : Option Home} {vehicle : Vehicle}
    (read : Home.underKey (.mapping entries) "home" = .ok home)
    (built : settings.vehicleWith home (entries.getD "vehicle" .null) = .ok vehicle)
    (confounds : Document.GivenUnder entries "geofence" AreaFence.Confounds) : BodyConfounds settings (.mapping entries)
  | limits {entries : Entries} {home : Option Home} {vehicle : Vehicle} {fence : Geofence}
    (read : Home.underKey (.mapping entries) "home" = .ok home)
    (built : settings.vehicleWith home (entries.getD "vehicle" .null) = .ok vehicle)
    (fenced : Document.fenceUnder (.mapping entries) "geofence" = .ok fence)
    (first : Slot.FirstConfounds (limitSlots settings entries)) : BodyConfounds settings (.mapping entries)

theorem limit_bind {α : Type} (name : String) (f : Limit → Except Fault α) : s.limit (.mapping entries) name >>= f =
    (entries.getD name (s.settings.get .feasibility name)).toReal >>= fun x => f (.meters x) := by
  unfold limit
  rw [Value.getD_mapping, ok_bind, bind_assoc]
  rfl

theorem strays_limits :
    EndsIn isStray (s.limits (.mapping entries)) ↔ Slot.FirstConfounds (limitSlots s.settings entries) := by
  unfold limits limitSlots
  simp only [Slot.FirstConfounds, List.map_cons, List.map_nil, foremost_cons, limit_bind]
  apply strays_real
  intro first
  apply strays_real
  intro between
  exact iff_of_false (not_endsIn_ok _) not_foremost_nil

theorem strays_readStoredCheck (v : Value) : EndsIn isStray (s.readStoredCheck v) ↔ BodyConfounds s.settings v := by
  cases v with
  | mapping entries =>
    have rest (vehicle : Vehicle) (fence : Geofence) :
        EndsIn isStray (s.limits (.mapping entries) >>= fun limits => pure (vehicle, fence, limits)) ↔
          Slot.FirstConfounds (limitSlots s.settings entries) :=
      (endsIn_map (g := fun limits => (vehicle, fence, limits))).trans strays_limits
    have flat : EndsIn isStray (s.readStoredCheck (.mapping entries)) ↔
        EndsIn isStray (Home.underKey (.mapping entries) "home" >>= fun home =>
          s.settings.vehicleWith home (Entries.getD entries "vehicle" .null) >>= fun vehicle =>
            Document.fenceUnder (.mapping entries) "geofence" >>= fun fence =>
              s.limits (.mapping entries) >>= fun limits => pure (vehicle, fence, limits)) := Iff.rfl
    rw [flat]
    simp only [endsIn_bind (x := Home.underKey _ _), endsIn_bind (x := Settings.vehicleWith _ _ _),
      endsIn_bind (x := Document.fenceUnder _ _), rest, Document.strays_underKey, Document.strays_fenceUnder,
      Settings.strays_vehicleWith]
    constructor
    · rintro (confounds | ⟨home, read, ⟨values, confounds⟩ | ⟨vehicle, built, confounds | ⟨fence, fenced, first⟩⟩⟩)
      · exact .home confounds
      · exact .vehicle ⟨home, read⟩ confounds
      · exact .fence read built confounds
      · exact .limits read built fenced first
    · rintro (odd | confounds | ⟨⟨home, read⟩, confounds⟩ | ⟨read, built, confounds⟩ | ⟨read, built, fenced, first⟩)
      · exact absurd rfl (odd entries)
      · exact .inl confounds
      · exact .inr ⟨home, read, .inl ⟨_, confounds⟩⟩
      · exact .inr ⟨_, read, .inr ⟨_, built, .inl confounds⟩⟩
      · exact .inr ⟨_, read, .inr ⟨_, built, .inr ⟨_, fenced, first⟩⟩⟩
  | _ => exact iff_of_true ⟨_, rfl, rfl⟩ (.kind nofun)

theorem keeps_readStoredCheck (v : Value) : Keeps checkRefusals (s.readStoredCheck v) := by
  have limit (name : String) : Keeps checkRefusals (s.limit v name) := by
    unfold Service.limit
    apply keeps_bind (keeps_getD v name _)
    intro given _
    apply keeps_bind ((Value.keeps_toReal given).mono (by simp [checkRefusals]))
    intro x _
    exact keeps_ok _
  have refused {α : Type} {x : Except Fault α} (h : Keeps [.invalid] x) : Keeps checkRefusals x :=
    h.mono (by simp [checkRefusals])
  cases v with
  | mapping entries =>
    unfold readStoredCheck
    apply keeps_bind (refused (Document.keeps_underKey "home"))
    intro home _
    apply keeps_bind
    · apply keeps_bind (keeps_getD _ "vehicle" _)
      intro overrides _
      exact (Settings.keeps_vehicleWith home overrides).mono (by simp [checkRefusals])
    intro vehicle _
    apply keeps_bind (refused (Document.keeps_fenceUnder "geofence"))
    intro fence _
    apply keeps_bind
    · apply keeps_bind (limit _)
      intro first _
      apply keeps_bind (limit _)
      intro between _
      exact keeps_ok _
    intro limits _
    exact keeps_ok _
  | _ => exact keeps_error (.inr rfl)

def pass (s : Service) (mission : Mission) (vehicle : Vehicle) (fence : Geofence) (limits : Limits) :
    Except Fault Verdict :=
  let checker : Checker DirectoryStore := { read := DirectoryStore.read, vehicle, fence }
  (checker.check mission limits s.store).verdict

inductive Answered (s : Service) (mission : Mission) (body : Value) : Except Fault Response → Prop
  | judged {vehicle : Vehicle} {fence : Geofence} {limits : Limits} {verdict : Verdict} {document : Value}
    (read : s.readStoredCheck (heard body) = .ok (vehicle, fence, limits))
    (ended : s.pass mission vehicle fence limits = .ok verdict) (reported : verdict.toValue = .ok document) :
    Answered s mission body (.ok (.ok document))
  | refused {fault : Fault} (read : s.readStoredCheck (heard body) = .error fault) :
    Answered s mission body (.ok (.refusal 400 fault.message))

def Ends (s : Service) (mission : Mission) (body : Value) : Prop :=
  ∀ vehicle fence limits, s.readStoredCheck (heard body) = .ok (vehicle, fence, limits) →
    ∃ verdict, s.pass mission vehicle fence limits = .ok verdict

theorem reported_of_ended {c : Checker DirectoryStore} {mission : Mission} {limits : Limits} {store : DirectoryStore}
    {verdict : Verdict} (ended : (c.check mission limits store).verdict = .ok verdict) :
    ∃ document, verdict.toValue = .ok document := by
  unfold Checker.check at ended
  split at ended
  · cases ended
    exact ⟨_, rfl⟩
  · change (Pass.run (c.context mission) limits store).verdict = .ok verdict at ended
    unfold Pass.Trace.verdict at ended
    split at ended
    · cases ended
    · cases ended
      exact Verdict.toValue_ofOutcomes _

theorem checkMission_reply (mission : Mission) (body : Value) : (s.checkMission mission body).1 =
    match s.readStoredCheck (heard body) with
    | .error fault => Response.refusing checkRefusals fault
    | .ok (vehicle, fence, limits) => told (s.pass mission vehicle fence limits) := by
  unfold checkMission heard
  dsimp only
  cases s.readStoredCheck (if body.isGiven = true then body else .mapping []) <;> rfl

theorem checkMission_cases {mission : Mission} (ends : s.Ends mission body) :
    s.Answered mission body (s.checkMission mission body).1 ∧ ¬ BodyConfounds s.settings (heard body) ∨
      BodyConfounds s.settings (heard body) ∧
        ∃ fault, (s.checkMission mission body).1 = .error fault ∧ fault.isStray = true := by
  rw [← strays_readStoredCheck, checkMission_reply]
  cases read : s.readStoredCheck (heard body) with
  | ok asked =>
    obtain ⟨vehicle, fence, limits⟩ := asked
    obtain ⟨verdict, ended⟩ := ends vehicle fence limits read
    obtain ⟨document, reported⟩ := reported_of_ended ended
    have told : told (s.pass mission vehicle fence limits) = .ok (.ok document) := by
      rw [ended]
      change verdict.toValue >>= _ = _
      rw [reported]
      rfl
    refine .inl ⟨?_, not_endsIn_ok _⟩
    dsimp only
    rw [told]
    exact .judged read ended reported
  | error fault =>
    rw [endsIn_error]
    dsimp only
    unfold Response.refusing
    cases stray : fault.isStray with
    | true =>
      rw [not_among_of_isStray (by decide) stray]
      exact .inr ⟨rfl, fault, rfl, stray⟩
    | false =>
      have among := (keeps_readStoredCheck _ fault read).resolve_right (by simp [stray])
      rw [among]
      exact .inl ⟨.refused read, Bool.false_ne_true⟩

def withFound (s : Service) (id : String) : Service := { s with store := (s.store.get? id).store }

theorem checkStored_of_found {id : String} {mission : Mission}
    (stored : (s.store.get? id).result = .ok (some mission)) (body : Value) :
    s.checkStored id body = (s.withFound id).checkMission mission body := by
  unfold checkStored
  dsimp only
  rw [stored]
  rfl

theorem not_answered_error {mission : Mission} {fault : Fault} : ¬ s.Answered mission body (.error fault) := nofun

end Service

/-- The check of a stored mission whose pass ends answers every body but those that confound the reader: it gives the
result of the pass, or says what is wrong with the body. For the others there is no answer; the fault is one of a number
that is too great, one without a whole part, something asked for what it does not have, and an open ring. -/
theorem checkStored_answers_iff {s : Service} {r : Request} {target id : String} {path : List Char} {body : Value}
    {mission : Mission} (posted : r.Posts target body) (reached : Target.path target = .ok path)
    (route : Route.ofPath "POST" path = .to (.checkStored id))
    (stored : (s.store.get? id).result = .ok (some mission))
    (ends : (s.withFound id).Ends mission body) :
    ((s.withFound id).Answered mission body (s.answer r).1 ↔
      ¬ Service.BodyConfounds s.settings (Service.heard body)) ∧
    (Service.BodyConfounds s.settings (Service.heard body) → ∃ fault, (s.answer r).1 = .error fault ∧
      (fault = .realOverflow ∨ fault = .wholeOfInfinite ∨ (∃ kind name, fault = .noOperation kind name) ∨
        fault = .openRing)) := by
  have reply : s.answer r = (s.withFound id).checkMission mission body := by
    rw [Service.answer_posted posted reached route, Service.answerAt, posted.document,
      Service.checkStored_of_found stored]
  rw [reply]
  rcases Service.checkMission_cases ends with ⟨answered, kept⟩ | ⟨confounds, fault, escaped, stray⟩
  · exact ⟨iff_of_true answered kept, fun confounds => absurd confounds kept⟩
  · rw [escaped]
    refine ⟨iff_of_false Service.not_answered_error (not_not_intro confounds), ?_⟩
    exact fun _ => ⟨fault, rfl, isStray_cases stray⟩

theorem checkStored_answers_vehicle :
    let mission : Mission := MemoryStore.handle "m" [{ code := Command.waypoint.code, lat := 47.39, lon := 8.54 }]
    let s : Service :=
      { settings := {}
        store := { directory := ⟨"", ["missions"]⟩, files := {},
                   cache := [("m", [{ code := Command.waypoint.code, lat := 47.39, lon := 8.54 }])] } }
    let body : Value := .mapping [("vehicle", .mapping [("type", .text "vtol")])]
    let r := Request.posting "/api/missions/m/check" "\x7b\"vehicle\": \x7b\"type\": \"vtol\"\x7d\x7d"
    r.Posts "/api/missions/m/check" body ∧ Target.path r.target = .ok "api/missions/m/check".toList ∧
      Route.ofPath "POST" "api/missions/m/check".toList = .to (.checkStored "m") ∧
      (s.store.get? "m").result = .ok (some mission) ∧
      (s.withFound "m").Ends mission body ∧
      (s.withFound "m").Answered mission body (s.answer r).1 := by
  intro mission s body r
  have posted : r.Posts "/api/missions/m/check" body := Request.posts_posting String.toList_ofList (by decide +kernel)
  have reached : Target.path r.target = .ok "api/missions/m/check".toList := by decide +kernel
  have route : Route.ofPath "POST" "api/missions/m/check".toList = .to (.checkStored "m") := by rfl
  have stored : (s.store.get? "m").result = .ok (some mission) := by rfl
  have asked : s.readStoredCheck (Service.heard body) =
      .ok ({ airframe := .vtol }, .unlimited, { first := .meters 900.0, between := .meters 900.0 }) := by rfl
  have ends : (s.withFound "m").Ends mission body := by
    intro vehicle fence limits read
    obtain ⟨rfl, rfl, rfl⟩ : _ = vehicle ∧ _ = fence ∧ _ = limits := by simpa using asked.symm.trans read
    have done : ((s.pass mission { airframe := .vtol } .unlimited
      { first := .meters 900.0, between := .meters 900.0 }).toOption).isSome = true := by decide +kernel
    change ∃ verdict, s.pass mission _ _ _ = .ok verdict
    cases ended : s.pass mission { airframe := .vtol } .unlimited
        { first := .meters 900.0, between := .meters 900.0 } with
    | ok verdict => exact ⟨verdict, rfl⟩
    | error fault =>
      rw [ended] at done
      cases done
  have answered := (checkStored_answers_iff posted reached route stored ends).1
  refine ⟨posted, reached, route, stored, ends, answered.mpr ?_⟩
  rw [← Service.strays_readStoredCheck, asked]
  exact not_endsIn_ok _

/-- A mission without items, whose pass always ends: a body that is a list, a geofence that is one, and a vehicle whose
takeoff and landing have an infinite number. -/
theorem checkStored_unanswered :
    let s : Service :=
      { settings := {}, store := { directory := ⟨"", ["missions"]⟩, files := {}, cache := [("m", [])] } }
    let post := Request.posting "/api/missions/m/check"
    (s.store.get? "m").result = .ok (some (MemoryStore.handle "m" [])) ∧
      (∀ vehicle fence limits, s.pass (MemoryStore.handle "m" []) vehicle fence limits = .ok .empty) ∧
      (s.answer (post "[1]")).1 = .error (.noOperation "list" "get") ∧
      (s.answer (post "\x7b\"geofence\": [1]\x7d")).1 = .error (.noOperation "list" "get") ∧
      (s.answer (post "\x7b\"vehicle\": \x7b\"takeoff_land_required\": Infinity\x7d\x7d")).1 =
        .error .wholeOfInfinite := by
  intro s post
  have route : Route.ofPath "POST" "api/missions/m/check".toList = .to (.checkStored "m") := by rfl
  have answer {text : String} {cs : List Char} {body : Value} (letters : text.toList = cs)
      (read : Json.ofOctets? (Utf8.encode cs) = some body) : s.answer (post text) = s.checkStored "m" body := by
    have posted : (post text).Posts "/api/missions/m/check" body := Request.posts_posting letters read
    rw [Service.answer_posted posted (by decide +kernel) route, Service.answerAt, posted.document]
  refine ⟨rfl, fun _ _ _ => rfl, ?_, ?_, ?_⟩
  · rw [@answer _ _ (.list [.whole 1]) String.toList_ofList (by decide +kernel)]
    rfl
  · rw [@answer _ _ (.mapping [("geofence", .list [.whole 1])]) String.toList_ofList (by decide +kernel)]
    rfl
  · rw [@answer _ _ (.mapping [("vehicle", .mapping [("takeoff_land_required", .real Double.infinity)])])
      String.toList_ofList (by decide +kernel)]
    rfl

end Preflight
