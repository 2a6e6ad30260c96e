import Preflight.Diagnostic

namespace Preflight

/-- What a check can say about a mission. Items are given by their index, from zero. -/
inductive Finding where
  | storageFailure (reading : Bool)
  | unsupportedCommand (index : Nat) (code : Int)
  | actuatorIndex (index : Nat) (actuator : Int) (greatest : Nat)
  | actuatorRange (index : Nat) (value limit : Int)
  | startsWithLanding (waypoint : Bool)
  | fenceWithoutHome (index : Option Nat)
  | outsideFence (index : Nat)
  | relativeWithoutHome (index : Nat)
  | belowHome (index : Nat)
  | noPositionLock
  | firstTooFar (index : Nat) (distance limit : Int)
  | tooFarApart (index : Nat) (distance limit : Int)
  | gateTooClose (index : Nat) (distance least : Float)
  | takeoffTooLow (index : Nat) (least : Float)
  | takeoffNotFirst (index : Nat)
  | severalLandStarts (index : Nat)
  | landStartBeforeReturn (index : Nat)
  | invalidLandStart
  | landingAngleMissing (index : Nat)
  | approachRequired (index : Nat)
  | approachBelowLand (index : Nat)
  | landInsideOrbit (index : Nat)
  | unsupportedApproach (index : Nat)
  | glideSlopeTooSteep (index : Nat) (degrees tenths altitude distance : Int)
  | takeoffMissing
  | landingMissing
  | takeoffOrLandingMissing
  | landingToAdd
  | takeoffToAdd

namespace Finding

def severity : Finding → Severity
  | belowHome _ => .warning
  | noPositionLock => .info
  | _ => .error

def code : Finding → String
  | storageFailure _ => "mission_storage_failure"
  | unsupportedCommand .. => "mission_unsupported_command"
  | actuatorIndex .. => "mission_actuator_index"
  | actuatorRange .. => "mission_actuator_range"
  | startsWithLanding _ => "mission_starts_with_landing"
  | fenceWithoutHome _ => "mission_geofence_no_home"
  | outsideFence _ => "mission_geofence_violation"
  | relativeWithoutHome _ => "mission_no_home_relative_alt"
  | belowHome _ => "mission_waypoint_below_home"
  | noPositionLock => "mission_no_position_lock"
  | firstTooFar .. => "mission_first_waypoint_too_far"
  | tooFarApart .. => "mission_waypoints_too_far"
  | gateTooClose .. => "mission_gate_too_close"
  | takeoffTooLow .. => "mission_takeoff_too_low"
  | takeoffNotFirst _ => "mission_takeoff_not_first"
  | severalLandStarts _ => "mission_multiple_land_start"
  | landStartBeforeReturn _ => "mission_land_start_before_rtl"
  | invalidLandStart => "mission_invalid_land_start"
  | landingAngleMissing _ => "mission_land_angle_missing"
  | approachRequired _ => "mission_landing_approach_required"
  | approachBelowLand _ => "mission_approach_below_land"
  | landInsideOrbit _ => "mission_land_inside_orbit"
  | unsupportedApproach _ => "mission_unsupported_landing_approach"
  | glideSlopeTooSteep .. => "mission_glide_slope_too_steep"
  | takeoffMissing => "mission_takeoff_missing"
  | landingMissing => "mission_land_missing"
  | takeoffOrLandingMissing => "mission_takeoff_or_land_missing"
  | landingToAdd => "mission_add_land_or_remove_takeoff"
  | takeoffToAdd => "mission_add_takeoff_or_remove_land"

def template : Finding → String
  | storageFailure true => "Error reading mission storage"
  | storageFailure false => "Mission rejected: Cannot access mission storage"
  | unsupportedCommand .. => "Mission rejected: item \x7b0\x7d: unsupported command: \x7b1\x7d"
  | actuatorIndex .. => "Actuator number \x7b0\x7d is out of bounds 0..\x7b1\x7d"
  | actuatorRange .. => "Actuator value \x7b0\x7d is out of bounds -\x7b1\x7d..\x7b1\x7d"
  | startsWithLanding false => "Mission rejected: starts with landing"
  | startsWithLanding true => "Mission rejected: starts with land waypoint"
  | fenceWithoutHome _ => "Geofence requires a valid home position"
  | outsideFence _ => "Geofence violation for waypoint \x7b0\x7d"
  | relativeWithoutHome _ =>
    "Mission rejected: No home position, waypoint \x7b0\x7d uses relative altitude"
  | belowHome _ => "Waypoint \x7b0\x7d below home"
  | noPositionLock => "Not yet ready for mission, no position lock"
  | firstTooFar .. => "First waypoint too far away: \x7b0\x7dm (maximum: \x7b1\x7dm)"
  | tooFarApart .. => "Distance between waypoints too far: \x7b0\x7dm, (maximum: \x7b1\x7dm)"
  | gateTooClose .. =>
    "Distance between waypoint and gate too close: \x7b0:.3f\x7dm (minimum: \x7b1:.3f\x7dm)"
  | takeoffTooLow .. => "Mission rejected: takeoff altitude too low! Minimum: \x7b0:.1f\x7dm"
  | takeoffNotFirst _ => "Mission rejected: takeoff is not the first waypoint item"
  | severalLandStarts _ => "Mission rejected: more than one land start commands"
  | landStartBeforeReturn _ => "Mission rejected: land start item before RTL item is not possible"
  | invalidLandStart => "Mission rejected: invalid land start"
  | landingAngleMissing _ => "Mission rejected: landing angle parameter is missing"
  | approachRequired _ => "Mission rejected: landing approach is required"
  | approachBelowLand _ => "Mission rejected: the approach waypoint must be above the landing point"
  | landInsideOrbit _ => "Mission rejected: the landing point must be outside the orbit radius"
  | unsupportedApproach _ =>
    "Mission rejected: unsupported landing approach entrance waypoint type. " ++
      "Only LOITER_TO_ALT or WAYPOINT allowed"
  | glideSlopeTooSteep .. =>
    "Mission rejected: the landing glide slope is steeper than the vehicle setting of " ++
      "\x7b0\x7d.\x7b1\x7d degrees. Reduce the glide slope, lower the entrance altitude \x7b2\x7d meters, " ++
      "or increase the landing approach distance \x7b3\x7d meters"
  | takeoffMissing => "Mission rejected: Takeoff waypoint required"
  | landingMissing => "Mission rejected: Landing waypoint/pattern required"
  | takeoffOrLandingMissing => "Mission rejected: Takeoff or Landing item missing"
  | landingToAdd => "Mission rejected: Add Landing item or remove Takeoff"
  | takeoffToAdd => "Mission rejected: Add Takeoff item or remove Landing"

def number (index : Nat) : Int := index + 1

def args : Finding → List Value
  | unsupportedCommand index code => [.whole (number index), .whole code]
  | actuatorIndex _ actuator greatest => [.whole actuator, .whole greatest]
  | actuatorRange _ value limit => [.whole value, .whole limit]
  | outsideFence index | relativeWithoutHome index | belowHome index => [.whole (number index)]
  | firstTooFar _ distance limit | tooFarApart _ distance limit => [.whole distance, .whole limit]
  | gateTooClose _ distance least => [.real distance, .real least]
  | takeoffTooLow _ least => [.real least]
  | glideSlopeTooSteep _ degrees tenths altitude distance =>
    [.whole degrees, .whole tenths, .whole altitude, .whole distance]
  | _ => []

def item : Finding → Option Int
  | unsupportedCommand index _ | actuatorIndex index .. | actuatorRange index .. | outsideFence index
  | relativeWithoutHome index | belowHome index | firstTooFar index .. | tooFarApart index ..
  | gateTooClose index .. | takeoffTooLow index _ | takeoffNotFirst index | severalLandStarts index
  | landStartBeforeReturn index | landingAngleMissing index | approachRequired index
  | approachBelowLand index | landInsideOrbit index | unsupportedApproach index
  | glideSlopeTooSteep index .. => some (number index)
  | fenceWithoutHome index => index.map number
  | startsWithLanding _ => some 1
  | storageFailure _ | noPositionLock | invalidLandStart | takeoffMissing | landingMissing
  | takeoffOrLandingMissing | landingToAdd | takeoffToAdd => none

def diagnostic (f : Finding) : Diagnostic := ⟨f.severity, f.code, f.template, f.args, f.item⟩

end Finding

end Preflight
