import Preflight.Proofs.Document.Items
import Preflight.Settings

namespace Preflight

open Fault

theorem confined_foldlM {α β : Type} {passing : Fault → Prop} {groups : List Group} {f : β → α → Except Fault β}
    (hf : ∀ b a, Confined passing groups (f b a)) (b : β) (items : List α) :
    Confined passing groups (items.foldlM f b) := by
  induction items generalizing b with
  | nil => exact confined_ok b
  | cons a items ih =>
    rw [List.foldlM_cons]
    exact confined_bind (hf b a) fun b _ => ih b

namespace Settings

variable {s : Settings} {values : Entries} {overrides : Value}

def landedOf : Value → Except Fault Bool
  | .boolean landed => .ok landed
  | v => do throw (.badSetting s!"vehicle setting 'landed' must be true or false, got {← v.shown Value.literal}")

def angleOf : Value → Except Fault (Option Float)
  | .null => .ok none
  | v => some <$> v.toReal

def vehicleOf (home : Option Home) (values : Entries) : Except Fault Vehicle := do
  let landed ← landedOf (values.getD "landed" .null)
  let airframe ← airframeOf (values.getD "type" .null)
  let acceptanceRadius ← (values.getD "default_acceptance_radius" .null).toReal
  let landingAngle ← angleOf (values.getD "landing_angle_deg" .null)
  let presence ← (values.getD "takeoff_land_required" .null).toWhole
  let actuatorLimit ← (values.getD "max_actuator_value" .null).toReal
  return { airframe, landed, home := home.getD .unknown, acceptanceRadius, landingAngle, presence, actuatorLimit }

theorem vehicleWith_eq (home : Option Home) (overrides : Value) :
    s.vehicleWith home overrides = s.overridden overrides >>= vehicleOf home := by
  unfold vehicleWith vehicleOf
  apply congrArg (s.overridden overrides >>= ·)
  funext values
  change (match values.getD "landed" .null with | .boolean b => _ | v => _) = _
  cases values.getD "landed" .null with
  | boolean landed =>
    change airframeOf (values.getD "type" .null) >>= _ = airframeOf (values.getD "type" .null) >>= _
    apply congrArg
    funext airframe
    change (values.getD "default_acceptance_radius" .null).toReal >>= _ =
      (values.getD "default_acceptance_radius" .null).toReal >>= _
    apply congrArg
    funext acceptanceRadius
    change (match values.getD "landing_angle_deg" .null with | .null => _ | v => _) = _
    cases values.getD "landing_angle_deg" .null <;> rfl
  | _ =>
    dsimp only [landedOf]
    rw [bind_assoc]
    rfl

def angleSlots (angle : Value) : List Slot :=
  match angle with
  | .null => []
  | v => [.real (some v)]

def vehicleSlots (values : Entries) : List Slot :=
  .real (some (values.getD "default_acceptance_radius" .null)) :: angleSlots (values.getD "landing_angle_deg" .null) ++
    [.whole (some (values.getD "takeoff_land_required" .null)), .real (some (values.getD "max_actuator_value" .null))]

structure VehicleConfounds (s : Settings) (overrides : Value) (values : Entries) : Prop where
  given : s.overridden overrides = .ok values
  landed : ∃ landed, values.getD "landed" .null = .boolean landed
  airframe : ∃ airframe, airframeOf (values.getD "type" .null) = .ok airframe
  first : Slot.FirstConfounds (vehicleSlots values)

theorem confined_overridden (overrides : Value) : Confined (fun _ => False) [.value] (s.overridden overrides) := by
  unfold overridden
  cases overrides with
  | null => exact confined_ok _
  | mapping given =>
    refine confined_foldlM (fun values entry => ?_) _ given
    dsimp only
    split
    · exact confined_ok _
    · exact confined_error (.inl rfl)
  | _ => exact confined_error (.inl rfl)

theorem confined_complaint {α : Type} {complaint : String → Fault} (v : Value) (style : Value → String)
    (hcomplaint : ∀ shown, (complaint shown).group = .value) :
    Confined (fun _ => False) [.value] (v.shown style >>= fun shown => throw (complaint shown) : Except Fault α) := by
  unfold Value.shown
  split
  · exact confined_error (.inl rfl)
  · exact confined_error (.inl (by simp [isAmong, hcomplaint]))

theorem confined_airframeOf (v : Value) : Confined (fun _ => False) [.value] (airframeOf v) := by
  unfold airframeOf
  split
  · split
    · exact confined_ok _
    · exact confined_complaint _ _ fun _ => rfl
  · exact confined_complaint _ _ fun _ => rfl

theorem confined_landedOf (v : Value) : Confined (fun _ => False) [.value] (landedOf v) := by
  unfold landedOf
  split
  · exact confined_ok _
  · exact confined_complaint _ _ fun _ => rfl

theorem landedOf_eq_ok {v : Value} {landed : Bool} : landedOf v = .ok landed ↔ v = .boolean landed := by
  unfold landedOf
  split
  next => simp
  next v other =>
    refine iff_of_false (fun given => ?_) (other landed)
    obtain ⟨shown, -, given⟩ := bind_ok given
    cases given

theorem not_strays_of_confined {α : Type} {x : Except Fault α} {groups : List Group}
    (hgroups : ∀ group ∈ groups, group ∈ refusable) (h : Confined (fun _ => False) groups x) : ¬ EndsIn isStray x := by
  rintro ⟨fault, rfl, stray⟩
  have among := (h fault rfl).resolve_right id
  rw [not_among_of_isStray hgroups stray] at among
  cases among

theorem strays_vehicleNumbers (values : Entries) (build : Float → Option Float → Int → Float → Vehicle) :
    EndsIn isStray (do
      let acceptanceRadius ← (values.getD "default_acceptance_radius" .null).toReal
      let landingAngle ← angleOf (values.getD "landing_angle_deg" .null)
      let presence ← (values.getD "takeoff_land_required" .null).toWhole
      let actuatorLimit ← (values.getD "max_actuator_value" .null).toReal
      return build acceptanceRadius landingAngle presence actuatorLimit) ↔
      Slot.FirstConfounds (vehicleSlots values) := by
  have last (radius : Float) (angle : Option Float) : EndsIn isStray (do
      let presence ← (values.getD "takeoff_land_required" .null).toWhole
      let actuatorLimit ← (values.getD "max_actuator_value" .null).toReal
      return build radius angle presence actuatorLimit) ↔
      Slot.FirstConfounds [.whole (some (values.getD "takeoff_land_required" .null)),
        .real (some (values.getD "max_actuator_value" .null))] := by
    rw [Slot.FirstConfounds, foremost_cons, foremost_cons]
    apply strays_whole
    intro presence
    apply strays_real
    intro actuatorLimit
    exact iff_of_false (not_endsIn_ok _) not_foremost_nil
  have given (radius : Float) (v : Value) : EndsIn isStray (some <$> v.toReal >>= fun angle => do
      let presence ← (values.getD "takeoff_land_required" .null).toWhole
      let actuatorLimit ← (values.getD "max_actuator_value" .null).toReal
      return build radius angle presence actuatorLimit) ↔ Slot.FirstConfounds (.real (some v) ::
        [.whole (some (values.getD "takeoff_land_required" .null)),
          .real (some (values.getD "max_actuator_value" .null))]) := by
    rw [Slot.FirstConfounds, foremost_cons, bind_map_left]
    apply strays_real
    exact fun angle => last radius (some angle)
  unfold vehicleSlots
  rw [Slot.FirstConfounds, List.cons_append, foremost_cons]
  apply strays_real
  intro radius
  generalize values.getD "landing_angle_deg" .null = angle
  cases angle with
  | null => exact last radius none
  | _ => exact given radius _

theorem strays_vehicleOf (home : Option Home) (values : Entries) : EndsIn isStray (vehicleOf home values) ↔
    (∃ landed, values.getD "landed" .null = .boolean landed) ∧
      (∃ airframe, airframeOf (values.getD "type" .null) = .ok airframe) ∧
        Slot.FirstConfounds (vehicleSlots values) := by
  have numbers (landed : Bool) (airframe : Airframe) :=
    strays_vehicleNumbers values fun acceptanceRadius landingAngle presence actuatorLimit =>
    { airframe, landed, home := home.getD .unknown, acceptanceRadius, landingAngle, presence, actuatorLimit }
  unfold vehicleOf
  rw [endsIn_bind, or_iff_right (not_strays_of_confined (by decide) (confined_landedOf _))]
  simp only [endsIn_bind (x := airframeOf _), numbers, landedOf_eq_ok,
    or_iff_right (not_strays_of_confined (by decide) (confined_airframeOf _))]
  simp

theorem strays_vehicleWith (home : Option Home) (overrides : Value) :
    EndsIn isStray (s.vehicleWith home overrides) ↔ ∃ values, s.VehicleConfounds overrides values := by
  rw [vehicleWith_eq, endsIn_bind, or_iff_right (not_strays_of_confined (by decide) (confined_overridden _))]
  simp only [strays_vehicleOf]
  constructor
  · rintro ⟨values, given, landed, airframe, first⟩
    exact ⟨values, given, landed, airframe, first⟩
  · rintro ⟨values, given, landed, airframe, first⟩
    exact ⟨values, given, landed, airframe, first⟩

theorem keeps_number (v : Value) : Keeps [.value, .kind] v.toReal := (Value.keeps_toReal v).mono (by simp)

theorem keeps_angleOf (v : Value) : Keeps [.value, .kind] (angleOf v) := by
  have given (v : Value) : Keeps [.value, .kind] (some <$> v.toReal) := keeps_bind (keeps_number v) fun _ _ => keeps_ok _
  cases v with
  | null => exact keeps_ok _
  | _ => exact given _

theorem keeps_vehicleWith (home : Option Home) (overrides : Value) :
    Keeps [.value, .kind] (s.vehicleWith home overrides) := by
  have sound {α : Type} {x : Except Fault α} (h : Confined (fun _ => False) [.value] x) : Keeps [.value, .kind] x :=
    Confined.imp (h.mono (by simp)) fun _ => False.elim
  rw [vehicleWith_eq]
  apply keeps_bind (sound (confined_overridden overrides))
  intro values _
  unfold vehicleOf
  apply keeps_bind (sound (confined_landedOf _))
  intro landed _
  apply keeps_bind (sound (confined_airframeOf _))
  intro airframe _
  apply keeps_bind (keeps_number _)
  intro acceptanceRadius _
  apply keeps_bind (keeps_angleOf _)
  intro landingAngle _
  apply keeps_bind ((Value.keeps_toWhole _).mono (by simp))
  intro presence _
  apply keeps_bind (keeps_number _)
  intro actuatorLimit _
  exact keeps_ok _

end Settings

end Preflight
