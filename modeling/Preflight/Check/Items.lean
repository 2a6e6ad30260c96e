import Preflight.Check.Outcome
import Preflight.Value.Access

namespace Preflight.Check

def greatestServo : Nat := 5

def wholeOf (x : Float) : Except Fault Int := Value.wholeOfReal (Double.truncate x)

def servo (item : Item) : Float := item.params[0]
def servoValue (item : Item) : Float := item.params[1]

def invalidity (vehicle : Vehicle) (index : Nat) (item : Item) : Except Fault (Option Finding) := do
  if !item.capability.supported then
    return some (.unsupportedCommand index item.code)
  if item.carries .doSetServo then
    if servo item < 0.0 || Double.ofInt greatestServo < servo item then
      return some (.actuatorIndex index (← wholeOf (servo item)) greatestServo)
    if servoValue item < -vehicle.actuatorLimit || vehicle.actuatorLimit < servoValue item then
      return some (.actuatorRange index (← wholeOf (servoValue item)) (← wholeOf vehicle.actuatorLimit))
  if index = 0 && item.carries .land && vehicle.landed then
    return some (.startsWithLanding false)
  return none

def stopAt {α : Type} (seen : α) : Option Finding → Progress α Finding
  | some finding => .stopped finding
  | none => .going seen

def validity {σ : Type} : Check σ := fun ctx flags => do
  match ← ctx.scanItems () fun index item seen => stopAt seen <$> invalidity ctx.vehicle index item with
  | .going _ => return .pass flags
  | .stopped finding => return .fail flags finding
  | .unreadable reason _ => return .unreadable flags reason false

def compareWithHome {σ : Type} (ctx : Context σ) (index : Nat) (item : Item) (warnings : List Finding) :
    Progress (List Finding) (List Finding) :=
  let home := ctx.vehicle.home
  let located := ctx.hasPosition item
  if item.relative && !home.altitudeKnown && located then
    .stopped (warnings ++ [.relativeWithoutHome index])
  else if home.altitudeKnown && item.altitudeAmsl home.altitude < home.altitude && located then
    .going (warnings ++ [.belowHome index])
  else .going warnings

def homeAltitude {σ : Type} : Check σ := fun ctx flags => do
  match ← ctx.scanItems [] fun index item warnings => .ok (compareWithHome ctx index item warnings) with
  | .going warnings => return { passed := true, flags, warning := !warnings.isEmpty, findings := warnings }
  | .stopped findings => return { passed := false, flags, warning := true, findings }
  | .unreadable reason warnings =>
    let failure := Outcome.unreadable flags reason false
    return { failure with warning := true, findings := warnings ++ failure.findings }

def fenceBreach {σ : Type} (ctx : Context σ) (index : Nat) (item : Item) : Except Fault (Option Finding) := do
  if item.relative && !ctx.vehicle.home.known then
    return some (.fenceWithoutHome (some index))
  let resolved := item.toAmsl ctx.vehicle.home.altitude
  if ctx.hasPosition resolved then
    if !(← ctx.fence.check resolved) then return some (.outsideFence index)
  return none

def fence {σ : Type} : Check σ := fun ctx flags => do
  if ctx.fence.isHomeRequired && !ctx.vehicle.home.known then
    return .fail flags (.fenceWithoutHome none)
  if !ctx.fence.isUsable then
    return .pass flags
  match ← ctx.scanItems () fun index item seen => stopAt seen <$> fenceBreach ctx index item with
  | .going _ => return .pass flags
  | .stopped finding => return .fail flags finding
  | .unreadable reason _ => return .unreadable flags reason false

end Preflight.Check
