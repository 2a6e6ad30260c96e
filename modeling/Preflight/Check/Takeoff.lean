import Preflight.Check.Outcome

namespace Preflight.Check

def leastOwnRadius : Float := 0.001

def takeoffClearance : Float := 1.0

def altitudeTolerance : Float := 1e-6

def relativeTolerance : Float := 1e-9

def isClose (a b : Float) : Bool :=
  if a == b then true
  else if Double.isInfinite a || Double.isInfinite b then false
  else
    let difference := (b - a).abs
    difference ≤ (relativeTolerance * b).abs || difference ≤ (relativeTolerance * a).abs ||
      difference ≤ altitudeTolerance

def isTakeoff (item : Item) : Bool := item.carries .takeoff || item.carries .vtolTakeoff

def heightAboveHome (vehicle : Vehicle) (item : Item) : Float :=
  if item.relative then item.altitude else item.altitude - vehicle.home.altitude

def leastHeight (vehicle : Vehicle) (item : Item) : Float :=
  (if leastOwnRadius < item.acceptanceRadius then item.acceptanceRadius else vehicle.acceptanceRadius) +
    takeoffClearance

def isTooLow (vehicle : Vehicle) (item : Item) : Bool :=
  heightAboveHome vehicle item < leastHeight vehicle item &&
    !isClose (heightAboveHome vehicle item) (leastHeight vehicle item)

structure TakeoffScan where
  takeoff : Bool
  first : Option Nat := none
  prepared : Bool := true

def visitTakeoff (vehicle : Vehicle) (index : Nat) (item : Item) (seen : TakeoffScan) :
    Progress TakeoffScan (Bool × Finding) :=
  if !isTakeoff item then
    .going { seen with prepared := seen.prepared && (seen.first.isSome || item.capability.preTakeoff) }
  else if isTooLow vehicle item then
    .stopped (seen.takeoff, .takeoffTooLow index (leastHeight vehicle item))
  else
    .going { seen with takeoff := true, first := some (seen.first.getD index) }

def takeoff {σ : Type} : Check σ := fun ctx flags => do
  let start : TakeoffScan := { takeoff := flags.takeoff }
  match ← ctx.scanItems start fun index item seen => .ok (visitTakeoff ctx.vehicle index item seen) with
  | .stopped (seen, finding) => return .fail { flags with takeoff := seen } finding
  | .unreadable reason seen => return .unreadable { flags with takeoff := seen.takeoff } reason false
  | .going seen =>
    let flags := { flags with takeoff := seen.takeoff }
    match seen.first with
    | some index => return if seen.prepared then .pass flags else .fail flags (.takeoffNotFirst index)
    | none => return .pass flags

def missing (presence : Presence) (flags : Flags) : Option Finding :=
  match presence with
  | .anything => none
  | .takeoff => if flags.takeoff then none else some .takeoffMissing
  | .landing => if flags.landing then none else some .landingMissing
  | .both => if flags.takeoff && flags.landing then none else some .takeoffOrLandingMissing
  | .symmetric =>
    if flags.takeoff = flags.landing then none
    else some (if flags.takeoff then .landingToAdd else .takeoffToAdd)

def presence {σ : Type} : Check σ := fun ctx flags =>
  match (Presence.ofNumber? ctx.vehicle.presence).bind (missing · flags) with
  | some finding => pure (.fail flags finding)
  | none => pure (.pass flags)

end Preflight.Check
