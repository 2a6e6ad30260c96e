import Preflight.Settings

namespace Preflight.Settings

structure IsDeclared (s : Settings) : Prop where
  airframe : ∃ name, s.get .vehicle "type" = .text name
  landed : ∃ landed, s.get .vehicle "landed" = .boolean landed
  acceptanceRadius : ∃ x, s.get .vehicle "default_acceptance_radius" = .real x
  landingAngle : s.get .vehicle "landing_angle_deg" = .null ∨ ∃ x, s.get .vehicle "landing_angle_deg" = .real x
  presence : ∃ n, s.get .vehicle "takeoff_land_required" = .whole n
  actuatorLimit : ∃ x, s.get .vehicle "max_actuator_value" = .real x
  first : ∃ x, s.get .feasibility "max_distance_to_first_waypoint" = .real x
  between : ∃ x, s.get .feasibility "max_distance_between_waypoints" = .real x

variable {s : Settings}

theorem vehicleWith_nothing (home : Option Home) : s.vehicleWith home (.mapping []) = s.vehicleWith home .null := rfl

theorem airframeOf_text (name : String) : (∃ airframe, airframeOf (.text name) = .ok airframe) ∨
    ∃ shown, airframeOf (.text name) = .error (.unknownVehicle shown) := by
  unfold airframeOf
  dsimp only
  split
  next airframe _ => exact .inl ⟨airframe, rfl⟩
  next => exact .inr ⟨_, rfl⟩

theorem vehicleWith_null (home : Option Home) : s.vehicleWith home .null = (do
    let landed ← match s.get .vehicle "landed" with
      | .boolean b => pure b
      | v => throw (.badSetting s!"vehicle setting 'landed' must be true or false, got {← v.shown Value.literal}")
    let airframe ← airframeOf (s.get .vehicle "type")
    let acceptanceRadius ← (s.get .vehicle "default_acceptance_radius").toReal
    let landingAngle ← match s.get .vehicle "landing_angle_deg" with
      | .null => pure none
      | v => some <$> v.toReal
    let presence ← (s.get .vehicle "takeoff_land_required").toWhole
    let actuatorLimit ← (s.get .vehicle "max_actuator_value").toReal
    return { airframe, landed, home := home.getD .unknown, acceptanceRadius, landingAngle, presence, actuatorLimit }) := rfl

theorem vehicleWith_declared (h : s.IsDeclared) (home : Option Home) :
    (∃ vehicle, s.vehicleWith home .null = .ok vehicle) ∨
      ∃ shown, s.vehicleWith home .null = .error (.unknownVehicle shown) := by
  obtain ⟨name, airframe⟩ := h.airframe
  obtain ⟨onGround, landed⟩ := h.landed
  obtain ⟨radius, acceptanceRadius⟩ := h.acceptanceRadius
  obtain ⟨required, presence⟩ := h.presence
  obtain ⟨greatest, actuatorLimit⟩ := h.actuatorLimit
  rw [vehicleWith_null, landed, airframe, acceptanceRadius, presence, actuatorLimit]
  rcases airframeOf_text name with ⟨airframe, found⟩ | ⟨shown, found⟩
  · left
    rw [found]
    rcases h.landingAngle with landingAngle | ⟨angle, landingAngle⟩
    · rw [landingAngle]
      exact ⟨_, rfl⟩
    · rw [landingAngle]
      exact ⟨_, rfl⟩
  · right
    rw [found]
    exact ⟨shown, rfl⟩

theorem limits_declared (h : s.IsDeclared) : ∃ first between, s.limits = ⟨.meters first, .meters between⟩ ∧
    s.get .feasibility "max_distance_to_first_waypoint" = .real first ∧
    s.get .feasibility "max_distance_between_waypoints" = .real between := by
  obtain ⟨first, hfirst⟩ := h.first
  obtain ⟨between, hbetween⟩ := h.between
  refine ⟨first, between, ?_, hfirst, hbetween⟩
  rw [limits, hfirst, hbetween]
  rfl

end Preflight.Settings
