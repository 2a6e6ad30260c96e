import Preflight.Proofs.Check.Counted
import Preflight.Proofs.Check.Listed
import Preflight.Proofs.Check.Report

namespace Preflight.Check

variable {σ τ : Type} {ctx : Context σ} {flags : Flags} {outcome : Outcome}

def closeStep (seen : LandingScan) : Except String (Option Finding) → Progress LandingScan (Bool × Finding)
  | .error reason => .unreadable reason seen
  | .ok (some finding) => .stopped (seen.landing, finding)
  | .ok none => .going { seen with validated := true }

theorem visitLanding_eq (rules : LandingRules σ) (ctx : Context σ) (index : Nat) (item : Item) (seen : LandingScan) :
    visitLanding rules ctx index item seen =
      if item.carries .doLandStart && seen.landing then pure (.stopped (seen.landing, .severalLandStarts index))
      else if rules.lands item then do
        return closeStep ((seen.start index item).land index) (← (rules.step ctx index item).attempt)
      else if item.carries .returnToLaunch && (seen.start index item).landing &&
          (seen.start index item).landStart < index then
        pure (.stopped ((seen.start index item).landing, .landStartBeforeReturn index))
      else pure (.going (seen.start index item)) := by
  unfold visitLanding
  dsimp only
  split
  · rfl
  · split
    · exact bind_congr fun answer => by rcases answer with _ | _ | _ <;> rfl
    · split <;> rfl

def closeLanding (needsValidated : Bool) (flags : Flags) : Progress LandingScan (Bool × Finding) → Outcome
  | .going seen =>
    let flags := { flags with landing := seen.landing }
    if seen.isInvalid needsValidated then .fail flags .invalidLandStart else .pass flags
  | .stopped (seen, finding) => .fail { flags with landing := seen } finding
  | .unreadable reason seen => .unreadable { flags with landing := seen.landing } reason false

theorem landingSequence_eq (rules : LandingRules σ) (ctx : Context σ) (flags : Flags) :
    landingSequence rules ctx flags = ctx.settle (.ok none) { landing := flags.landing : LandingScan }
      (visitLanding rules ctx) (closeLanding rules.needsValidated flags) :=
  bind_congr fun progress => by cases progress <;> rfl

def closeAnyLanding (flags : Flags) : Progress Bool Finding → Outcome
  | .going found => .pass { flags with landing := found }
  | .stopped _ => .pass flags
  | .unreadable reason _ =>
    { Outcome.pass { flags with landing := false } with
      notes := [Log.line Log.warning .landing s!"Landing scan aborted: {reason}"] }

theorem anyLanding_eq (ctx : Context σ) (flags : Flags) :
    anyLanding ctx flags = ctx.settle (.ok none) false
      (fun _ item found => .ofExcept (.ok (.going (found || isLand item) : Progress Bool Finding)))
      (closeAnyLanding flags) :=
  bind_congr fun progress => by cases progress <;> rfl

theorem fixedWingStep_eq (ctx : Context σ) (index : Nat) (item : Item) :
    fixedWingStep ctx index item =
      match ctx.vehicle.landingAngle with
      | none => pure (some (.landingAngleMissing index))
      | some angle =>
        if index = 0 then pure (some (.startsWithLanding false))
        else ctx.read (index - 1) >>= fun approach => .ofExcept (approachFault ctx angle index approach item) := by
  unfold fixedWingStep
  cases ctx.vehicle.landingAngle with
  | none => rfl
  | some angle =>
    by_cases hi : index = 0
    · simp only [hi, if_true]
    · simp only [hi, if_false]
      rfl

theorem fixedWingStep_missing (h : ctx.vehicle.landingAngle = none) (index : Nat) (item : Item) :
    fixedWingStep ctx index item = pure (some (.landingAngleMissing index)) := by
  rw [fixedWingStep_eq, h]

theorem fixedWingStep_angle {angle : Float} (h : ctx.vehicle.landingAngle = some angle) (index : Nat) (item : Item) :
    fixedWingStep ctx index item =
      if index = 0 then pure (some (.startsWithLanding false))
      else ctx.read (index - 1) >>= fun approach => .ofExcept (approachFault ctx angle index approach item) := by
  rw [fixedWingStep_eq, h]

theorem vtolStep_eq (ctx : Context σ) (index : Nat) (item : Item) :
    vtolStep ctx index item =
      if index = 0 then pure (some (.startsWithLanding true)) else ctx.read (index - 1) >>= fun _ => pure none := by
  unfold vtolStep
  split <;> rfl

inductive LandingVisit (rules : LandingRules σ) (ctx : Context σ) (index : Nat) (item : Item) (seen : LandingScan)
    (store : σ) : Progress LandingScan (Bool × Finding) → σ → Prop
  | again (landing : Bool) : LandingVisit rules ctx index item seen store
      (.stopped (landing, .severalLandStarts index)) store
  | returns (landing : Bool) : LandingVisit rules ctx index item seen store
      (.stopped (landing, .landStartBeforeReturn index)) store
  | lands (hlands : rules.lands item = true) {answer : Except String (Option Finding)} {after : σ}
      (step : (rules.step ctx index item).attempt.run store = (.ok answer, after)) :
      LandingVisit rules ctx index item seen store (closeStep ((seen.start index item).land index) answer) after
  | passes (hlands : rules.lands item = false) : LandingVisit rules ctx index item seen store
      (.going (seen.start index item)) store

theorem visitLanding_ok {rules : LandingRules σ} {index : Nat} {item : Item} {seen : LandingScan} {store after : σ}
    {progress : Progress LandingScan (Bool × Finding)}
    (h : (visitLanding rules ctx index item seen).run store = (.ok progress, after)) :
    LandingVisit rules ctx index item seen store progress after := by
  rw [visitLanding_eq] at h
  split at h
  · rcases h with ⟨rfl, rfl⟩
    exact .again seen.landing
  · split at h
    next hlands =>
      obtain ⟨answer, mid, step, h⟩ := Reads.bind_ok h
      rcases h with ⟨rfl, rfl⟩
      exact .lands hlands step
    next hlands =>
      split at h
      · rcases h with ⟨rfl, rfl⟩
        exact .returns (seen.start index item).landing
      · rcases h with ⟨rfl, rfl⟩
        exact .passes (by simpa using hlands)

def StepsReject (rules : LandingRules σ) (ctx : Context σ) : Prop :=
  ∀ index < ctx.count, ∀ item store finding after,
    (rules.step ctx index item).run store = (.ok (some finding), after) →
      finding.Rejects ctx.count ∧ finding.isCaution = false

theorem landingSequence_plain {rules : LandingRules σ} (steps : StepsReject rules ctx) {store after : σ}
    (h : (landingSequence rules ctx flags).run store = (.ok outcome, after)) : outcome.Plain ctx.count := by
  rw [landingSequence_eq] at h
  refine settle_obeys (I := fun _ _ => True)
    (P := fun result : Bool × Finding => result.2.Rejects ctx.count ∧ result.2.isCaution = false) nofun trivial ?_ ?_ h
  · intro index hi item seen store progress after _ hvisit
    cases visitLanding_ok hvisit with
    | again landing => exact ⟨Finding.rejects_of_number hi rfl rfl, rfl⟩
    | returns landing => exact ⟨Finding.rejects_of_number hi rfl rfl, rfl⟩
    | @lands hlands answer _ step =>
      rcases answer with reason | _ | finding
      · trivial
      · trivial
      · exact steps index hi item store finding after (Reads.attempt_ok step)
    | passes => trivial
  · rintro (seen | ⟨seen, finding⟩ | ⟨reason, seen⟩) obeys
    · dsimp only [closeLanding]
      split
      · exact Outcome.plain_fail _ (Finding.rejects_of_none (by simp [Finding.severity]) rfl) rfl
      · exact Outcome.plain_pass ctx.count _
    · exact Outcome.plain_fail _ obeys.1 obeys.2
    · exact Outcome.plain_unreadable ctx.count _ reason false

theorem landingSequence_catches (rules : LandingRules σ) : (landingSequence rules ctx flags).Catches := by
  rw [landingSequence_eq]
  exact settle_catches ctx _ _ _ nofun

theorem landingSequence_agree {R : σ → τ → Prop} {read : Nat → Reads τ Item}
    (reads : ∀ index < ctx.count, Reads.Agree R (ctx.read index) (read index)) {rules : LandingRules σ}
    {step : LandingStep τ} (steps : ∀ index < ctx.count, ∀ item,
      Reads.Agree R (rules.step ctx index item) (step (ctx.withRead read) index item)) :
    Reads.Agree R (landingSequence rules ctx flags)
      (landingSequence { lands := rules.lands, step, needsValidated := rules.needsValidated }
        (ctx.withRead read) flags) := by
  rw [landingSequence_eq, landingSequence_eq]
  refine settle_agree reads _ _ (fun index hi item seen => ?_) _
  rw [visitLanding_eq, visitLanding_eq]
  split
  · exact .pure _
  · split
    · exact (steps index hi item).attempt.bind fun answer => .pure _
    · split
      · exact .pure _
      · exact .pure _

theorem visitLanding_honest {rules : LandingRules (σ × Nat)} {ctx : Context (σ × Nat)}
    (steps : ∀ index item, (rules.step ctx index item).Clean) (index : Nat) (item : Item) (seen : LandingScan) :
    (visitLanding rules ctx index item seen).Honest := by
  rw [visitLanding_eq]
  split
  · exact Reads.honest_ofExcept (.ok _)
  · split
    · exact Reads.honest_attempt (steps index item) fun reason => ⟨_, rfl⟩
    · split
      · exact Reads.honest_ofExcept (.ok _)
      · exact Reads.honest_ofExcept (.ok _)

theorem landingSequence_unread {rules : LandingRules (σ × Nat)}
    (steps : ∀ index item, (rules.step ctx.counted index item).Clean) {store after : σ × Nat}
    {answer : Except Fault Outcome} (h : (landingSequence rules ctx.counted flags).run store = (answer, after))
    (hfailed : store.2 < after.2) : ∃ o, answer = .ok o ∧ o.Unread := by
  rw [landingSequence_eq] at h
  obtain ⟨reason, seen, rfl⟩ := settle_counted (visitLanding_honest steps) h hfailed
  exact ⟨_, rfl, Outcome.unread_unreadable _ reason false⟩

theorem landingSequence_flags {rules : LandingRules σ} {store after : σ}
    (h : (landingSequence rules ctx flags).run store = (.ok outcome, after)) :
    outcome.flags.takeoff = flags.takeoff := by
  rw [landingSequence_eq] at h
  rcases settle_ok h with ⟨decided, -⟩ | ⟨-, progress, -, rfl⟩
  · simp at decided
  · rcases progress with seen | result | reason
    · dsimp only [closeLanding]
      split <;> rfl
    · rfl
    · rfl

theorem approachDistance_error {index : Nat} {approach item : Item} {finding : Finding}
    (h : approachDistance ctx index approach item = .ok (.error finding)) :
    finding = .landInsideOrbit index ∨
      finding = .unsupportedApproach (index - 1) ∧ approach.carries .loiterToAlt = false ∧
        approach.carries .waypoint = false := by
  unfold approachDistance at h
  split at h
  · obtain ⟨distance, -, h⟩ := Fault.bind_ok h
    dsimp only at h
    split at h
    · exact .inl (Except.error.inj (Except.ok.inj h)).symm
    · obtain ⟨exit, -, h⟩ := Fault.bind_ok h
      exact nomatch Except.ok.inj h
  next straight =>
    split at h
    · obtain ⟨distance, -, h⟩ := Fault.bind_ok h
      exact nomatch Except.ok.inj h
    next other =>
      obtain rfl := Except.error.inj (Except.ok.inj h)
      exact .inr ⟨rfl, Bool.eq_false_iff.mpr straight, Bool.eq_false_iff.mpr other⟩

theorem slopeFault_some {angle height distance : Float} {index : Nat} {finding : Finding}
    (h : slopeFault angle height distance index = .ok (some finding)) :
    ∃ degrees tenths altitude needed, finding = .glideSlopeTooSteep index degrees tenths altitude needed := by
  obtain ⟨greatest, -, h⟩ := Fault.bind_ok h
  split at h
  · obtain ⟨altitude, -, h⟩ := Fault.bind_ok h
    obtain ⟨quotient, -, h⟩ := Fault.bind_ok h
    obtain ⟨needed, -, h⟩ := Fault.bind_ok h
    obtain ⟨degrees, -, h⟩ := Fault.bind_ok h
    obtain ⟨tenths, -, h⟩ := Fault.bind_ok h
    exact ⟨degrees, tenths, altitude, needed, (Option.some.inj (Except.ok.inj h)).symm⟩
  · exact nomatch Except.ok.inj h

theorem slopeFault_none {angle height distance : Float} {index : Nat}
    (h : slopeFault angle height distance index = .ok none) :
    ∃ greatest, Geodesy.maxGlideSlope angle = .ok greatest ∧ ¬ greatest < glideSlope height distance := by
  obtain ⟨greatest, hgreatest, h⟩ := Fault.bind_ok h
  refine ⟨greatest, hgreatest, fun steep => ?_⟩
  rw [if_pos steep] at h
  obtain ⟨altitude, -, h⟩ := Fault.bind_ok h
  obtain ⟨quotient, -, h⟩ := Fault.bind_ok h
  obtain ⟨needed, -, h⟩ := Fault.bind_ok h
  obtain ⟨degrees, -, h⟩ := Fault.bind_ok h
  obtain ⟨tenths, -, h⟩ := Fault.bind_ok h
  exact nomatch Except.ok.inj h

def approachHeight (vehicle : Vehicle) (approach item : Item) : Float :=
  approach.altitudeAmsl vehicle.home.altitude - item.altitudeAmsl vehicle.home.altitude

theorem approachFault_eq (ctx : Context σ) (angle : Float) (index : Nat) (approach land : Item) :
    approachFault ctx angle index approach land =
      if !ctx.hasPosition approach then .ok (some (.approachRequired index))
      else if approachHeight ctx.vehicle approach land < leastApproachHeight then
        .ok (some (.approachBelowLand (index - 1)))
      else approachDistance ctx index approach land >>= fun
        | .error finding => .ok (some finding)
        | .ok distance => slopeFault angle (approachHeight ctx.vehicle approach land) distance index := rfl

theorem approachFault_ok {angle : Float} {index : Nat} {approach item : Item} {result : Option Finding}
    (h : approachFault ctx angle index approach item = .ok result) :
    result = some (.approachRequired index) ∨
      result = some (.approachBelowLand (index - 1)) ∧ ctx.hasPosition approach = true ∨
      ¬ approachHeight ctx.vehicle approach item < leastApproachHeight ∧
        ((∃ finding, approachDistance ctx index approach item = .ok (.error finding) ∧ result = some finding) ∨
          ∃ distance, approachDistance ctx index approach item = .ok (.ok distance) ∧
            slopeFault angle (approachHeight ctx.vehicle approach item) distance index = .ok result) := by
  unfold approachFault at h
  split at h
  · exact .inl (Except.ok.inj h).symm
  next located =>
    dsimp only at h
    split at h
    · exact .inr (.inl ⟨(Except.ok.inj h).symm, by simpa using located⟩)
    next hheight =>
      obtain ⟨answer, hdistance, h⟩ := Fault.bind_ok h
      refine .inr (.inr ⟨hheight, ?_⟩)
      cases answer with
      | error finding => exact .inl ⟨finding, hdistance, (Except.ok.inj h).symm⟩
      | ok distance => exact .inr ⟨distance, hdistance, h⟩

inductive RefusesApproach (hasPosition : Item → Bool) (index : Nat) (approach : Item) : Finding → Prop
  | lost : RefusesApproach hasPosition index approach (.approachRequired index)
  | below (located : hasPosition approach = true) :
    RefusesApproach hasPosition index approach (.approachBelowLand (index - 1))
  | inside : RefusesApproach hasPosition index approach (.landInsideOrbit index)
  | unsupported (orbit : approach.carries .loiterToAlt = false) (straight : approach.carries .waypoint = false) :
    RefusesApproach hasPosition index approach (.unsupportedApproach (index - 1))
  | steep (degrees tenths altitude needed : Int) :
    RefusesApproach hasPosition index approach (.glideSlopeTooSteep index degrees tenths altitude needed)

theorem approachFault_some {angle : Float} {index : Nat} {approach item : Item} {finding : Finding}
    (h : approachFault ctx angle index approach item = .ok (some finding)) :
    RefusesApproach ctx.hasPosition index approach finding := by
  rcases approachFault_ok h with h | ⟨h, located⟩ | ⟨-, ⟨refused, hdistance, h⟩ | ⟨distance, -, hslope⟩⟩
  · obtain rfl := Option.some.inj h
    exact .lost
  · obtain rfl := Option.some.inj h
    exact .below located
  · obtain rfl := Option.some.inj h
    rcases approachDistance_error hdistance with rfl | ⟨rfl, orbit, straight⟩
    · exact .inside
    · exact .unsupported orbit straight
  · obtain ⟨degrees, tenths, altitude, needed, rfl⟩ := slopeFault_some hslope
    exact .steep degrees tenths altitude needed

inductive RefusesLanding (ctx : Context σ) (index : Nat) (store : σ) : Finding → Prop
  | angle : RefusesLanding ctx index store (.landingAngleMissing index)
  | first (first : index = 0) : RefusesLanding ctx index store (.startsWithLanding false)
  | approach {approach : Item} {mid : σ} {finding : Finding}
    (read : (ctx.read (index - 1)).run store = (.ok approach, mid))
    (refuses : RefusesApproach ctx.hasPosition index approach finding) : RefusesLanding ctx index store finding

theorem fixedWingStep_some {index : Nat} {item : Item} {store after : σ} {finding : Finding}
    (h : (fixedWingStep ctx index item).run store = (.ok (some finding), after)) :
    RefusesLanding ctx index store finding := by
  rw [fixedWingStep_eq] at h
  split at h
  · rcases h with ⟨rfl, rfl⟩
    exact .angle
  · split at h
    next first =>
      rcases h with ⟨rfl, rfl⟩
      exact .first first
    next =>
      obtain ⟨approach, mid, read, h⟩ := Reads.bind_ok h
      exact .approach read (approachFault_some (Prod.mk.inj h).1)

theorem vtolStep_some {index : Nat} {item : Item} {store after : σ} {finding : Finding}
    (h : (vtolStep ctx index item).run store = (.ok (some finding), after)) :
    index = 0 ∧ finding = .startsWithLanding true := by
  rw [vtolStep_eq] at h
  split at h
  next first =>
    rcases h with ⟨rfl, rfl⟩
    exact ⟨first, rfl⟩
  next =>
    obtain ⟨approach, mid, -, h⟩ := Reads.bind_ok h
    exact nomatch Except.ok.inj (Prod.mk.inj h).1

theorem refusesApproach_rejects {hasPosition : Item → Bool} {index count : Nat} {approach : Item} {finding : Finding}
    (hi : index < count) (h : RefusesApproach hasPosition index approach finding) :
    finding.Rejects count ∧ finding.isCaution = false := by
  have hbefore : index - 1 < count := by omega
  cases h with
  | below => exact ⟨Finding.rejects_of_number hbefore rfl rfl, rfl⟩
  | unsupported => exact ⟨Finding.rejects_of_number hbefore rfl rfl, rfl⟩
  | _ => exact ⟨Finding.rejects_of_number hi rfl rfl, rfl⟩

theorem startsWithLanding_rejects {index count : Nat} (hi : index < count) (waypoint : Bool) :
    (Finding.startsWithLanding waypoint).Rejects count :=
  Finding.rejects_of_number (show 0 < count by omega) rfl rfl

theorem fixedWingStep_rejects {index count : Nat} {item : Item} {store after : σ} {finding : Finding}
    (hi : index < count) (h : (fixedWingStep ctx index item).run store = (.ok (some finding), after)) :
    finding.Rejects count ∧ finding.isCaution = false := by
  cases fixedWingStep_some h with
  | angle => exact ⟨Finding.rejects_of_number hi rfl rfl, rfl⟩
  | first => exact ⟨startsWithLanding_rejects hi false, rfl⟩
  | approach _ refuses => exact refusesApproach_rejects hi refuses

theorem vtolStep_rejects {index count : Nat} (hi : index < count) (item : Item) {store after : σ} {finding : Finding}
    (h : (vtolStep ctx index item).run store = (.ok (some finding), after)) :
    finding.Rejects count ∧ finding.isCaution = false := by
  obtain ⟨-, rfl⟩ := vtolStep_some h
  exact ⟨startsWithLanding_rejects hi true, rfl⟩

theorem fixedWingStep_agree {R : σ → τ → Prop} {read : Nat → Reads τ Item}
    (reads : ∀ index < ctx.count, Reads.Agree R (ctx.read index) (read index)) {index : Nat} (hi : index < ctx.count)
    (item : Item) : Reads.Agree R (fixedWingStep ctx index item) (fixedWingStep (ctx.withRead read) index item) := by
  rw [fixedWingStep_eq, fixedWingStep_eq]
  change Reads.Agree R _ (match ctx.vehicle.landingAngle with | none => _ | some angle => _)
  split
  · exact .pure _
  · split
    · exact .pure _
    · exact (reads (index - 1) (by omega)).bind fun approach => .ofExcept _

theorem vtolStep_agree {R : σ → τ → Prop} {read : Nat → Reads τ Item}
    (reads : ∀ index < ctx.count, Reads.Agree R (ctx.read index) (read index)) {index : Nat} (hi : index < ctx.count)
    (item : Item) : Reads.Agree R (vtolStep ctx index item) (vtolStep (ctx.withRead read) index item) := by
  rw [vtolStep_eq, vtolStep_eq]
  split
  · exact .pure _
  · exact (reads (index - 1) (by omega)).bind fun approach => .pure _

theorem fixedWingStep_clean (ctx : Context σ) (index : Nat) (item : Item) :
    (fixedWingStep ctx.counted index item).Clean := by
  rw [fixedWingStep_eq]
  split
  · exact Reads.clean_ofExcept (.ok _)
  · split
    · exact Reads.clean_ofExcept (.ok _)
    · exact Reads.clean_bind (Reads.clean_counted _) fun approach => Reads.clean_ofExcept _

theorem vtolStep_clean (ctx : Context σ) (index : Nat) (item : Item) : (vtolStep ctx.counted index item).Clean := by
  rw [vtolStep_eq]
  split
  · exact Reads.clean_ofExcept (.ok _)
  · exact Reads.clean_bind (Reads.clean_counted _) fun approach => Reads.clean_ofExcept (.ok _)

theorem anyLanding_plain {store after : σ} (h : (anyLanding ctx flags).run store = (.ok outcome, after)) :
    outcome.Plain ctx.count := by
  rw [anyLanding_eq] at h
  rcases settle_ok h with ⟨decided, -⟩ | ⟨-, progress, -, rfl⟩
  · simp at decided
  · cases progress <;> exact ⟨none, ⟨rfl, rfl, by simp, by simp⟩, rfl⟩

theorem anyLanding_unread {store after : σ × Nat} {answer : Except Fault Outcome}
    (h : (anyLanding ctx.counted flags).run store = (answer, after)) (hfailed : store.2 < after.2) :
    ∃ o, answer = .ok o ∧ o.passed = true ∧ o.findings = [] ∧ o.flags = { flags with landing := false } := by
  rw [anyLanding_eq] at h
  obtain ⟨reason, seen, rfl⟩ := settle_counted (fun _ _ _ => Reads.honest_ofExcept _) h hfailed
  exact ⟨_, rfl, rfl, rfl, rfl⟩

theorem landing_plain {airframe : Airframe} {store after : σ}
    (h : (landing airframe ctx flags).run store = (.ok outcome, after)) : outcome.Plain ctx.count := by
  cases airframe with
  | rotaryWing => exact anyLanding_plain h
  | fixedWing => exact landingSequence_plain (fun _ hi _ _ _ _ => fixedWingStep_rejects hi) h
  | vtol => exact landingSequence_plain (fun _ hi item _ _ _ => vtolStep_rejects hi item) h

theorem landing_agree {R : σ → τ → Prop} {read : Nat → Reads τ Item}
    (reads : ∀ index < ctx.count, Reads.Agree R (ctx.read index) (read index)) (airframe : Airframe) :
    Reads.Agree R (landing airframe ctx flags) (landing airframe (ctx.withRead read) flags) := by
  cases airframe with
  | rotaryWing =>
    change Reads.Agree R (anyLanding ctx flags) (anyLanding (ctx.withRead read) flags)
    rw [anyLanding_eq, anyLanding_eq]
    exact settle_agree reads _ _ (fun _ _ _ _ => .ofExcept _) _
  | fixedWing => exact landingSequence_agree reads fun _ hi item => fixedWingStep_agree reads hi item
  | vtol => exact landingSequence_agree reads fun _ hi item => vtolStep_agree reads hi item

theorem landing_catches (airframe : Airframe) : (landing airframe ctx flags).Catches := by
  cases airframe with
  | rotaryWing =>
    change (anyLanding ctx flags).Catches
    rw [anyLanding_eq]
    exact settle_catches ctx _ _ _ nofun
  | fixedWing => exact landingSequence_catches _
  | vtol => exact landingSequence_catches _

theorem landing_unread {airframe : Airframe} (hairframe : airframe ≠ .rotaryWing) {store after : σ × Nat}
    {answer : Except Fault Outcome} (h : (landing airframe ctx.counted flags).run store = (answer, after))
    (hfailed : store.2 < after.2) : ∃ o, answer = .ok o ∧ o.Unread := by
  cases airframe with
  | rotaryWing => exact absurd rfl hairframe
  | fixedWing => exact landingSequence_unread (fixedWingStep_clean ctx) h hfailed
  | vtol => exact landingSequence_unread (vtolStep_clean ctx) h hfailed

theorem landing_flags {airframe : Airframe} {store after : σ}
    (h : (landing airframe ctx flags).run store = (.ok outcome, after)) : outcome.flags.takeoff = flags.takeoff := by
  cases airframe with
  | rotaryWing =>
    change (anyLanding ctx flags).run store = _ at h
    rw [anyLanding_eq] at h
    rcases settle_ok h with ⟨decided, -⟩ | ⟨-, progress, -, rfl⟩
    · simp at decided
    · cases progress <;> rfl
  | fixedWing => exact landingSequence_flags h
  | vtol => exact landingSequence_flags h

end Preflight.Check
