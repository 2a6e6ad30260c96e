import Preflight.Proofs.Check.Breaks
import Preflight.Proofs.Check.HomeAltitude
import Preflight.Proofs.Check.ItemRules

namespace Preflight.Check

variable {σ : Type} {ctx : Context σ} {limit : Limit} {flags : Flags} {answer : Nat → Except String Item} {store : σ}
  {vehicle : Vehicle} {index : Nat} {item : Item}

def validityRules (vehicle : Vehicle) : ItemRules where
  rules := [
    { code := "mission_unsupported_command", isBroken := fun _ item => !item.capability.supported },
    { code := "mission_actuator_index", isBroken := fun _ item =>
        item.carries .doSetServo && (servo item < 0.0 || Double.ofInt greatestServo < servo item) },
    { code := "mission_actuator_range", isBroken := fun _ item =>
        item.carries .doSetServo &&
          (servoValue item < -vehicle.actuatorLimit || vehicle.actuatorLimit < servoValue item) },
    { code := "mission_starts_with_landing", isBroken := fun index item =>
        index = 0 && item.carries .land && vehicle.landed }]

def isOutside (ctx : Context σ) (item : Item) : Bool :=
  let resolved := item.toAmsl ctx.vehicle.home.altitude
  ctx.hasPosition resolved && (ctx.fence.check resolved).toOption == some false

def fenceRules (ctx : Context σ) : ItemRules where
  rules := [
    { code := "mission_geofence_no_home", isBroken := fun _ item => item.relative && !ctx.vehicle.home.known },
    { code := "mission_geofence_violation", isBroken := fun _ item => isOutside ctx item }]

def homeAltitudeRules (ctx : Context σ) : ItemRules where
  rules := [
    { code := "mission_no_home_relative_alt", isBroken := fun _ item =>
        item.relative && !ctx.vehicle.home.altitudeKnown && ctx.hasPosition item }]
  remark index item :=
    let home := ctx.vehicle.home
    if home.altitudeKnown && item.altitudeAmsl home.altitude < home.altitude && ctx.hasPosition item then
      some (.belowHome index)
    else none

def isOutOfReach (ctx : Context σ) (limit : Limit) (item : Item) : Bool :=
  let home := ctx.vehicle.home
  ctx.hasPosition item && (ctx.distance item.lat item.lon home.lat home.lon).toOption.any (!limit.isAbove ·)

def firstRules (ctx : Context σ) (limit : Limit) : ItemRules where
  rules := [
    { code := "mission_first_waypoint_too_far", isBroken := fun _ item => isOutOfReach ctx limit item }]
  settles := ctx.hasPosition

def Applies (r : ItemRules) (index : Nat) (item : Item) (answer : Except Fault (Option Finding)) : Prop :=
  answer = .ok none ∧ r.broken? index item = none ∨ ∃ finding, answer = .ok (some finding) ∧
    r.broken? index item = some finding.code ∧ finding.item = some (Finding.number index)

theorem invalidity_applies (h : ¬ Breaks (invalidity vehicle index item)) :
    Applies (validityRules vehicle) index item (invalidity vehicle index item) := by
  cases hanswer : invalidity vehicle index item with
  | error fault => exact absurd ⟨fault, hanswer⟩ h
  | ok finding =>
    unfold Applies
    rw [validityRules]
    simp only [ItemRules.broken?_cons, ItemRules.broken?_nil]
    unfold invalidity at hanswer
    simp only [bind, Except.bind, pure, Except.pure] at hanswer
    grind [Finding.code, Finding.item, Finding.number]

theorem fenceBreach_applies (h : ¬ Breaks (fenceBreach ctx index item)) :
    Applies (fenceRules ctx) index item (fenceBreach ctx index item) := by
  rw [breaks_fenceBreach] at h
  rw [fenceBreach_eq]
  split
  next unresolved =>
    refine .inr ⟨.fenceWithoutHome (some index), rfl, ?_, rfl⟩
    rw [fenceRules, ItemRules.broken?_cons, if_pos unresolved]
    rfl
  next resolved =>
    have second : (fenceRules ctx).broken? index item =
        if isOutside ctx item then some "mission_geofence_violation" else none := by
      rw [fenceRules, ItemRules.broken?_cons, if_neg resolved, ItemRules.broken?_cons, ItemRules.broken?_nil]
    split
    next hposition =>
      cases hcheck : ctx.fence.check (item.toAmsl ctx.vehicle.home.altitude) with
      | error fault => exact absurd ⟨resolved_iff.mp resolved, hposition, fault, hcheck⟩ h
      | ok inside =>
        have outside : isOutside ctx item = !inside := by
          cases inside <;> simp [isOutside, hposition, hcheck, Except.toOption]
        rw [outside] at second
        cases inside with
        | true => exact .inl ⟨rfl, second⟩
        | false => exact .inr ⟨.outsideFence index, rfl, second, rfl⟩
    next lost => exact .inl ⟨rfl, second.trans (by simp [isOutside, lost])⟩

theorem judges_stopAt {r : ItemRules} {fault : Nat → Item → Except Fault (Option Finding)}
    (hanswers : ctx.Answers answer store) (codes : ∀ rule ∈ r.rules, rule.code ≠ "mission_storage_failure")
    (unsettled : r.settles = fun _ => false) (unremarked : r.remark = fun _ _ => none)
    (applies : ∀ index < ctx.count, ∀ item, answer index = .ok item → Applies r index item (fault index item)) :
    ∃ o, ((ctx.settle (.ok none) () (fun index item seen => .ofExcept (stopAt seen <$> fault index item)) fun
        | .going _ => .pass flags
        | .stopped finding => .fail flags finding
        | .unreadable reason _ => .unreadable flags reason false).run store).1 = .ok o ∧
      r.Judges answer ctx.count o := by
  have silent (index : Nat) : r.remarks answer index = [] := by
    simp [ItemRules.remarks, unremarked]
  refine ItemRules.judges_settle (fun _ => ()) hanswers codes (fun index hi item hanswer => ?_) ?_ ?_
  · rcases applies index hi item hanswer with ⟨none, unbroken⟩ | ⟨finding, some, broken, cites⟩
    · exact .inl ⟨by rw [none]; rfl, unbroken, by rw [unsettled]⟩
    · refine .inr ⟨finding, by rw [some]; rfl, .refused finding broken cites rfl ?_⟩
      rw [silent]
      rfl
  · exact ⟨rfl, (silent ctx.count).symm⟩
  · exact fun index reason => ⟨rfl, false, by rw [silent]; rfl⟩

theorem compareWithHome_judges (ctx : Context σ) (flags : Flags) (hanswer : answer index = .ok item) {count : Nat} :
    compareWithHome ctx index item ((homeAltitudeRules ctx).remarks answer index) =
          .going ((homeAltitudeRules ctx).remarks answer (index + 1)) ∧
        (homeAltitudeRules ctx).Passes index item ∨
      ∃ findings, compareWithHome ctx index item ((homeAltitudeRules ctx).remarks answer index) = .stopped findings ∧
        (homeAltitudeRules ctx).Ends answer count index item (closeHomeAltitude flags (.stopped findings)) := by
  rw [ItemRules.remarks_succ hanswer]
  unfold compareWithHome
  dsimp only
  split
  next unresolved =>
    refine .inr ⟨_, rfl, .refused (.relativeWithoutHome index) ?_ rfl rfl rfl⟩
    rw [homeAltitudeRules, ItemRules.broken?_cons, if_pos unresolved]
    rfl
  next resolved =>
    have unbroken : (homeAltitudeRules ctx).broken? index item = none := by
      rw [homeAltitudeRules, ItemRules.broken?_cons, if_neg resolved, ItemRules.broken?_nil]
    refine .inl ⟨?_, unbroken, rfl⟩
    dsimp only [homeAltitudeRules]
    split
    · rfl
    · simp

def IsReportable (ctx : Context σ) (limit : Limit) (item : Item) : Prop :=
  ∃ distance, ctx.distance item.lat item.lon ctx.vehicle.home.lat ctx.vehicle.home.lon = .ok distance ∧
    (limit.isAbove distance = false → ¬ Breaks (wholeOf distance) ∧ ¬ Breaks limit.toWhole)

theorem remarks_first (ctx : Context σ) (limit : Limit) (answer : Nat → Except String Item) (index : Nat) :
    (firstRules ctx limit).remarks answer index = [] := by
  simp [ItemRules.remarks, firstRules]

theorem measureFirst_judges (hdistance : ctx.hasPosition item = true → IsReportable ctx limit item) {count : Nat} :
    measureFirst ctx limit index item = .ok (.going ()) ∧ (firstRules ctx limit).Passes index item ∨
      ∃ result, measureFirst ctx limit index item = .ok (.stopped result) ∧
        (firstRules ctx limit).Ends answer count index item (closeFirst flags (.stopped result)) := by
  have only : (firstRules ctx limit).broken? index item =
      if isOutOfReach ctx limit item then some "mission_first_waypoint_too_far" else none := by
    rw [firstRules, ItemRules.broken?_cons, ItemRules.broken?_nil]
  cases hposition : ctx.hasPosition item with
  | false =>
    exact .inl ⟨measureFirst_lost hposition, only.trans (by simp [isOutOfReach, hposition]), hposition⟩
  | true =>
    obtain ⟨distance, measured, whole⟩ := hdistance hposition
    have far : isOutOfReach ctx limit item = !limit.isAbove distance := by
      simp [isOutOfReach, hposition, measured, Except.toOption]
    rw [far] at only
    simp only [measureFirst, hposition, Bool.not_true, Bool.false_eq_true, if_false, measured, bind, Except.bind, pure,
      Except.pure]
    cases above : limit.isAbove distance with
    | true =>
      rw [above] at only
      refine .inr ⟨_, rfl, .settled only hposition rfl ?_⟩
      rw [remarks_first]
      rfl
    | false =>
      rw [above] at only
      obtain ⟨numbered, limited⟩ := whole above
      cases hnumber : wholeOf distance with
      | error fault => exact absurd ⟨fault, hnumber⟩ numbered
      | ok number =>
        cases hmost : limit.toWhole with
        | error fault => exact absurd ⟨fault, hmost⟩ limited
        | ok most =>
          refine .inr ⟨_, rfl, .refused (.firstTooFar index number most) only rfl rfl ?_⟩
          rw [remarks_first]
          rfl

structure Computes (ctx : Context σ) (limit : Limit) (answer : Nat → Except String Item) : Prop where
  servo : ∀ index < ctx.count, ∀ item, answer index = .ok item → item.carries .doSetServo = true →
    ¬ ServoUnreportable ctx.vehicle item
  fence : ∀ index < ctx.count, ∀ item, answer index = .ok item →
    (item.relative = true → ctx.vehicle.home.known = true) →
    ctx.hasPosition (item.toAmsl ctx.vehicle.home.altitude) = true →
      ¬ Breaks (ctx.fence.check (item.toAmsl ctx.vehicle.home.altitude))
  distance : limit.isOff = .ok false → ∀ index < ctx.count, ∀ item, answer index = .ok item →
    ctx.hasPosition item = true → IsReportable ctx limit item

/-- Validity, geofence, home altitude and the distance to the first waypoint are each judged by the rules of the check:
it reports the first fault of the mission, and by the first rule that the item breaks. -/
theorem first_faults_judged (ctx : Context σ) (limit : Limit) (flags : Flags) (answer : Nat → Except String Item)
    (store : σ) (hanswers : ctx.Answers answer store) (hcomputes : Computes ctx limit answer) :
    (∃ o, ((validity ctx flags).run store).1 = .ok o ∧ (validityRules ctx.vehicle).Judges answer ctx.count o) ∧
      (ctx.fence.isUsable = true → (ctx.fence.isHomeRequired = true → ctx.vehicle.home.known = true) →
        ∃ o, ((fence ctx flags).run store).1 = .ok o ∧ (fenceRules ctx).Judges answer ctx.count o) ∧
      (∃ o, ((homeAltitude ctx flags).run store).1 = .ok o ∧ (homeAltitudeRules ctx).Judges answer ctx.count o) ∧
      (limit.isOff = .ok false →
        ∃ o, ((firstDistance limit ctx flags).run store).1 = .ok o ∧ (firstRules ctx limit).Judges answer ctx.count o) := by
  refine ⟨?_, fun usable home => ?_, ?_, fun on => ?_⟩
  · rw [validity_eq]
    refine judges_stopAt hanswers (by simp [validityRules]) rfl rfl fun index hi item hanswer => ?_
    apply invalidity_applies
    rw [breaks_invalidity]
    exact fun ⟨hservo, unreportable⟩ => hcomputes.servo index hi item hanswer hservo unreportable
  · rw [fence_eq, whenUnfenced_none.mpr ⟨home, usable⟩]
    refine judges_stopAt hanswers (by simp [fenceRules]) rfl rfl fun index hi item hanswer => ?_
    apply fenceBreach_applies
    rw [breaks_fenceBreach]
    exact fun ⟨resolved, hposition, broken⟩ => hcomputes.fence index hi item hanswer resolved hposition broken
  · rw [homeAltitude_eq]
    refine ItemRules.judges_settle ((homeAltitudeRules ctx).remarks answer) hanswers
      (by simp [homeAltitudeRules]) (fun index hi item hanswer => ?_) ⟨rfl, rfl⟩ fun index reason => ⟨rfl, false, rfl⟩
    rcases compareWithHome_judges ctx flags hanswer with ⟨going, passes⟩ | ⟨findings, stopped, ends⟩
    · exact .inl ⟨congrArg Except.ok going, passes⟩
    · exact .inr ⟨findings, congrArg Except.ok stopped, ends⟩
  · rw [firstDistance_eq, whenOff_on on]
    refine ItemRules.judges_settle (fun _ => ()) hanswers (by simp [firstRules])
      (fun index hi item hanswer => ?_) ⟨rfl, (remarks_first ..).symm⟩ fun index reason => ⟨rfl, true, ?_⟩
    · exact measureFirst_judges fun hposition => hcomputes.distance on index hi item hanswer hposition
    · rw [remarks_first]
      rfl

theorem first_faults_judged_below :
    let below : Item := { code := Command.waypoint.code, lat := 47.39, lon := 8.54, altitude := -5.0 }
    let answer : Nat → Except String Item := fun index => if index = 0 then .ok below else .error "gone"
    let ctx : Context Unit :=
      { read := fun index => .ofExcept ((answer index).mapError .storage), count := 2
        vehicle := { home := .ofNumbers 47.39 8.54 488.0 }, fence := .areas (.build [] [] (some 600.0) true)
        distance := Geodesy.distance, hasPosition := Item.hasPosition }
    ctx.Answers answer () ∧ Computes ctx (.meters 900.0) answer ∧
      (∃ o, ((validity ctx {}).run ()).1 = .ok o ∧ (validityRules ctx.vehicle).Judges answer 2 o) ∧
      (∃ o, ((fence ctx {}).run ()).1 = .ok o ∧ (fenceRules ctx).Judges answer 2 o) ∧
      (∃ o, ((homeAltitude ctx {}).run ()).1 = .ok o ∧ (homeAltitudeRules ctx).Judges answer 2 o ∧
        o.passed = false) ∧
      ∃ o, ((firstDistance (.meters 900.0) ctx {}).run ()).1 = .ok o ∧
        (firstRules ctx (.meters 900.0)).Judges answer 2 o := by
  intro below answer ctx
  have answers : ctx.Answers answer () := ⟨fun _ => True, trivial, fun index _ store _ => ⟨rfl, trivial⟩⟩
  have only : ∀ index item, answer index = .ok item → item = below := by
    intro index item hanswer
    by_cases first : index = 0
    · simp only [answer, first, if_true] at hanswer
      exact (Except.ok.inj hanswer).symm
    · simp [answer, first] at hanswer
  have near : (Geodesy.distance 47.39 8.54 47.39 8.54).toOption.map ((Limit.meters 900.0).isAbove ·) = some true := by
    decide +kernel
  have computes : Computes ctx (.meters 900.0) answer := by
    constructor
    case servo =>
      intro index _ item hanswer hservo
      obtain rfl := only index item hanswer
      exact absurd hservo (by decide)
    case fence =>
      rintro index _ item hanswer - - ⟨fault, broken⟩
      obtain rfl := only index item hanswer
      have inside : (ctx.fence.check (below.toAmsl ctx.vehicle.home.altitude)).toOption = some true := by
        decide +kernel
      rw [broken] at inside
      cases inside
    case distance =>
      intro _ index _ item hanswer _
      obtain rfl := only index item hanswer
      cases measured : Geodesy.distance 47.39 8.54 47.39 8.54 with
      | error fault => simp [measured, Except.toOption] at near
      | ok distance =>
        have above : (Limit.meters 900.0).isAbove distance = true := by simpa [measured, Except.toOption] using near
        exact ⟨distance, measured, fun far => absurd above (by simp [far])⟩
  obtain ⟨valid, fenced, ⟨o, answered, judges⟩, first⟩ :=
    first_faults_judged ctx (.meters 900.0) {} answer () answers computes
  have second : (homeAltitudeRules ctx).FirstFault answer 2 1 := by
    refine ItemRules.firstFault_of_passes (by decide) (.inl ⟨"gone", rfl⟩) fun earlier hearlier => ?_
    obtain rfl : earlier = 0 := by omega
    exact ⟨_, rfl, by decide, rfl⟩
  exact ⟨answers, computes, valid, fenced (by decide) (fun _ => rfl),
    ⟨o, answered, judges, judges.failed.mpr ⟨1, second⟩⟩, first (by decide +kernel)⟩

end Preflight.Check
