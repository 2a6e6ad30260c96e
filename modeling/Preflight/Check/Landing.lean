import Preflight.Check.Items

/-!
The landing checks. Fixed-wing and VTOL vehicles share the order of a landing sequence: at most one land start,
before the landing, and no return after it. They differ in which commands land and in what a single landing needs;
a fixed-wing landing needs an approach that is not too steep. A rotary-wing vehicle may land anywhere.
-/
namespace Preflight.Check

def leastApproachHeight : Float := 1.1920929e-7

abbrev LandingStep (σ : Type) := Context σ → Nat → Item → Reads σ (Option Finding)

structure LandingScan where
  landing : Bool
  landStart : Nat := 0
  approach : Nat := 0
  validated : Bool := false

structure LandingRules (σ : Type) where
  lands : Item → Bool
  step : LandingStep σ
  needsValidated : Bool

def LandingScan.start (seen : LandingScan) (index : Nat) (item : Item) : LandingScan :=
  if item.carries .doLandStart then { seen with landing := true, landStart := index } else seen

def LandingScan.land (seen : LandingScan) (index : Nat) : LandingScan :=
  { seen with landing := true, approach := if 0 < index then index - 1 else seen.approach }

def visitLanding {σ : Type} (rules : LandingRules σ) (ctx : Context σ) (index : Nat) (item : Item)
    (seen : LandingScan) : Reads σ (Progress LandingScan (Bool × Finding)) := do
  if item.carries .doLandStart && seen.landing then
    return .stopped (seen.landing, .severalLandStarts index)
  let seen := seen.start index item
  if rules.lands item then
    let seen := seen.land index
    match ← (rules.step ctx index item).attempt with
    | .error reason => return .unreadable reason seen
    | .ok (some finding) => return .stopped (seen.landing, finding)
    | .ok none => return .going { seen with validated := true }
  if item.carries .returnToLaunch && seen.landing && seen.landStart < index then
    return .stopped (seen.landing, .landStartBeforeReturn index)
  return .going seen

def LandingScan.isInvalid (seen : LandingScan) (needsValidated : Bool) : Bool :=
  seen.landing && ((needsValidated && !seen.validated) || seen.approach < seen.landStart)

def landingSequence {σ : Type} (rules : LandingRules σ) : Check σ := fun ctx flags => do
  match ← ctx.scan { landing := flags.landing } (visitLanding rules ctx) with
  | .stopped (seen, finding) => return .fail { flags with landing := seen } finding
  | .unreadable reason seen => return .unreadable { flags with landing := seen.landing } reason false
  | .going seen =>
    let flags := { flags with landing := seen.landing }
    return if seen.isInvalid rules.needsValidated then .fail flags .invalidLandStart else .pass flags

def approachDistance {σ : Type} (ctx : Context σ) (index : Nat) (approach item : Item) :
    Except Fault (Except Finding Float) := do
  if approach.carries .loiterToAlt then
    let centerToLand ← ctx.distance approach.lat approach.lon item.lat item.lon
    let radius := approach.loiterRadius.abs
    if centerToLand ≤ radius then return .error (.landInsideOrbit index)
    return .ok (← Geodesy.tangentExit centerToLand radius)
  if approach.carries .waypoint then
    return .ok (← ctx.distance approach.lat approach.lon item.lat item.lon)
  return .error (.unsupportedApproach (index - 1))

def glideSlope (height distance : Float) : Float := if 0.0 < distance then height / distance else Double.infinity

def divide (a b : Float) : Except Fault Float := if b == 0.0 then .error .divisionByZero else .ok (a / b)

def floorOf (x : Float) : Except Fault Int := Value.wholeOfReal (Double.floor x)
def ceilingOf (x : Float) : Except Fault Int := Value.wholeOfReal (Double.ceiling x)

def tenthsOf (angle : Float) : Except Fault Int := do
  wholeOf ((angle - Double.ofInt (← floorOf angle)) * 10.0)

def slopeFault (angle height distance : Float) (index : Nat) : Except Fault (Option Finding) := do
  let greatest ← Geodesy.maxGlideSlope angle
  if greatest < glideSlope height distance then
    let altitude ← wholeOf (greatest * distance)
    let needed ← ceilingOf (← divide height greatest)
    return some (.glideSlopeTooSteep index (← wholeOf angle) (← tenthsOf angle) altitude needed)
  return none

def approachFault {σ : Type} (ctx : Context σ) (angle : Float) (index : Nat) (approach item : Item) :
    Except Fault (Option Finding) := do
  if !ctx.hasPosition approach then return some (.approachRequired index)
  let homeAltitude := ctx.vehicle.home.altitude
  let height := approach.altitudeAmsl homeAltitude - item.altitudeAmsl homeAltitude
  if height < leastApproachHeight then return some (.approachBelowLand (index - 1))
  match ← approachDistance ctx index approach item with
  | .error finding => return some finding
  | .ok distance => slopeFault angle height distance index

def fixedWingStep {σ : Type} : LandingStep σ := fun ctx index item => do
  match ctx.vehicle.landingAngle with
  | none => return some (.landingAngleMissing index)
  | some angle =>
    if index = 0 then return some (.startsWithLanding false)
    let approach ← ctx.read (index - 1)
    approachFault ctx angle index approach item

def vtolStep {σ : Type} : LandingStep σ := fun ctx index _ => do
  if index = 0 then return some (.startsWithLanding true)
  let _ ← ctx.read (index - 1)
  return none

def isLand (item : Item) : Bool := item.carries .land

def isVtolLanding (item : Item) : Bool := item.carries .land || item.carries .vtolLand

def fixedWingLanding {σ : Type} : Check σ :=
  landingSequence { lands := isLand, step := fixedWingStep, needsValidated := true }

def vtolLanding {σ : Type} : Check σ :=
  landingSequence { lands := isVtolLanding, step := vtolStep, needsValidated := false }

def anyLanding {σ : Type} : Check σ := fun ctx flags => do
  let progress ← ctx.scanItems false fun _ item found =>
    .ok (Progress.going (found || isLand item) : Progress Bool Finding)
  match progress with
  | .going found => return .pass { flags with landing := found }
  | .stopped _ => return .pass flags
  | .unreadable reason _ =>
    return { Outcome.pass { flags with landing := false } with
      notes := [Log.line Log.warning .landing s!"Landing scan aborted: {reason}"] }

def landing {σ : Type} : Airframe → Check σ
  | .rotaryWing => anyLanding
  | .fixedWing => fixedWingLanding
  | .vtol => vtolLanding

end Preflight.Check
