import Preflight.Proofs.Check.LandingOrder

namespace Preflight.Check

variable {σ : Type} {ctx : Context σ} {id : String} {items : List Item}

/-- The way from an approach down to a landing: straight from a waypoint, along the tangent from an orbit. -/
inductive ApproachLength (ctx : Context σ) (approach land : Item) : Float → Prop
  | waypoint {distance : Float} (carries : approach.carries .waypoint = true)
      (measured : ctx.distance approach.lat approach.lon land.lat land.lon = .ok distance) :
      ApproachLength ctx approach land distance
  | orbit {center length : Float} (carries : approach.carries .loiterToAlt = true)
      (measured : ctx.distance approach.lat approach.lon land.lat land.lon = .ok center)
      (outside : ¬ center ≤ approach.loiterRadius.abs)
      (tangent : Geodesy.tangentExit center approach.loiterRadius.abs = .ok length) :
      ApproachLength ctx approach land length

structure LeadsDown (ctx : Context σ) (angle : Float) (approach land : Item) : Prop where
  located : ctx.hasPosition approach = true
  above : ¬ approachHeight ctx.vehicle approach land < leastApproachHeight
  shallow : ∃ length greatest, ApproachLength ctx approach land length ∧ Geodesy.maxGlideSlope angle = .ok greatest ∧
    ¬ greatest < glideSlope (approachHeight ctx.vehicle approach land) length

theorem approachDistance_eq_ok {index : Nat} {approach land : Item} {length : Float} :
    approachDistance ctx index approach land = .ok (.ok length) ↔ ApproachLength ctx approach land length := by
  constructor
  · intro h
    unfold approachDistance at h
    split at h
    next carries =>
      obtain ⟨center, measured, h⟩ := Fault.bind_ok h
      dsimp only at h
      split at h
      · exact nomatch Except.ok.inj h
      next outside =>
        obtain ⟨exit, tangent, h⟩ := Fault.bind_ok h
        obtain rfl := Except.ok.inj (Except.ok.inj h)
        exact .orbit carries measured outside tangent
    next =>
      split at h
      next carries =>
        obtain ⟨distance, measured, h⟩ := Fault.bind_ok h
        obtain rfl := Except.ok.inj (Except.ok.inj h)
        exact .waypoint carries measured
      next => exact nomatch Except.ok.inj h
  · intro h
    unfold approachDistance
    cases h with
    | waypoint carries measured =>
      have straight : ¬ approach.carries .loiterToAlt = true := fun orbit => nomatch Item.carries_unique carries orbit
      rw [if_neg straight, if_pos carries, measured]
      rfl
    | orbit carries measured outside tangent =>
      rw [if_pos carries, measured]
      change (if _ then _ else _ : Except Fault (Except Finding Float)) = _
      rw [if_neg outside, tangent]
      rfl

theorem slopeFault_eq_none {angle height distance : Float} {index : Nat} :
    slopeFault angle height distance index = .ok none ↔
      ∃ greatest, Geodesy.maxGlideSlope angle = .ok greatest ∧ ¬ greatest < glideSlope height distance := by
  refine ⟨slopeFault_none, ?_⟩
  rintro ⟨greatest, hgreatest, shallow⟩
  rw [slopeFault, hgreatest]
  exact if_neg shallow

theorem approachFault_eq_none {angle : Float} {index : Nat} {approach land : Item} :
    approachFault ctx angle index approach land = .ok none ↔ LeadsDown ctx angle approach land := by
  constructor
  · intro h
    have located : ctx.hasPosition approach = true := by
      cases lost : ctx.hasPosition approach with
      | true => rfl
      | false =>
        rw [approachFault, if_pos (by simp [lost])] at h
        exact nomatch Except.ok.inj h
    rcases approachFault_ok h with refused | ⟨refused, -⟩ | ⟨above, ⟨finding, -, refused⟩ | ⟨length, measured, slope⟩⟩
    · exact nomatch refused
    · exact nomatch refused
    · exact nomatch refused
    · obtain ⟨greatest, hgreatest, shallow⟩ := slopeFault_none slope
      exact ⟨located, above, length, greatest, approachDistance_eq_ok.mp measured, hgreatest, shallow⟩
  · rintro ⟨located, above, length, greatest, measured, hgreatest, shallow⟩
    rw [approachFault_eq, if_neg (by simp [located]), if_neg above, approachDistance_eq_ok.mpr measured]
    exact slopeFault_eq_none.mpr ⟨greatest, hgreatest, shallow⟩

abbrev fixedWingRules : LandingRules Unit := { lands := isLand, step := fixedWingStep, needsValidated := true }

def LandingsDescend (ctx : Context σ) (items : List Item) : Prop :=
  ∀ (index : Nat) land, items[index]? = some land → isLand land = true →
    ∃ angle approach, ctx.vehicle.landingAngle = some angle ∧ 0 < index ∧ items[index - 1]? = some approach ∧
      LeadsDown ctx angle approach land

theorem fixedWingStep_passes_iff {index : Nat} {land : Item} :
    (fixedWingStep (ctx.onList id items) index land).run () = (.ok none, ()) ↔
      ∃ angle approach, ctx.vehicle.landingAngle = some angle ∧ 0 < index ∧ items[index - 1]? = some approach ∧
        LeadsDown ctx angle approach land := by
  constructor
  · intro h
    rw [fixedWingStep_eq] at h
    split at h
    · exact nomatch (Prod.mk.inj h).1
    next angle hangle =>
      split at h
      · exact nomatch (Prod.mk.inj h).1
      next hindex =>
        obtain ⟨approach, mid, hread, h⟩ := Reads.bind_ok h
        have found : itemAt id ((index - 1 : Nat) : Int) items = .ok approach := (Prod.mk.inj hread).1
        have leads : LeadsDown ctx angle approach land := approachFault_eq_none.mp (Prod.mk.inj h).1
        exact ⟨angle, approach, hangle, by omega, itemAt_eq_ok.mp found, leads⟩
  · rintro ⟨angle, approach, hangle, hi, hfound, leads⟩
    have read : ((ctx.onList id items).read (index - 1)).run () = (.ok approach, ()) :=
      Prod.ext (itemAt_eq_ok.mpr hfound) rfl
    have passes : approachFault ctx angle index approach land = .ok none := approachFault_eq_none.mpr leads
    rw [fixedWingStep_angle (show (ctx.onList id items).vehicle.landingAngle = some angle from hangle),
      if_neg (by omega), Reads.run_bind, read]
    exact Prod.ext passes rfl

structure FixedWingSequence (ctx : Context σ) (items : List Item) : Prop where
  order : InLandingOrder isLand items
  served : ∀ (index : Nat) start, items[index]? = some start → isLandStart start = true →
    ∃ (later : Nat) (land : Item), index < later ∧ items[later]? = some land ∧ isLand land = true
  descends : LandingsDescend ctx items

theorem fixedWingSequence_iff (ctx : Context σ) (id : String) (items : List Item) :
    FixedWingSequence ctx items ↔ InLandingOrder isLand items ∧
      LandingsPass fixedWingRules (ctx.onList id items) items ∧ StartsServed isLand true items := by
  constructor
  · rintro ⟨order, served, descends⟩
    refine ⟨order, fun index land hfound hland => fixedWingStep_passes_iff.mpr (descends index land hfound hland), ?_⟩
    exact fun index start hfound hstart _ => served index start hfound hstart
  · rintro ⟨order, pass, served⟩
    refine ⟨order, fun index start hfound hstart => served index start hfound hstart (.inl rfl), ?_⟩
    exact fun index land hfound hland => fixedWingStep_passes_iff.mp (pass index land hfound hland)

namespace FixedWingSequence

theorem approach_behind (h : FixedWingSequence ctx items) {k j : Nat} {start land : Item}
    (hfound : items[k]? = some start) (hstart : isLandStart start = true) (hlast : items[j]? = some land)
    (hland : isLand land = true) : k < j - 1 := by
  obtain ⟨angle, approach, -, hj, happroach, leads⟩ := h.descends j land hlast hland
  obtain ⟨bound, rfl⟩ := List.getElem?_eq_some_iff.mp hfound
  obtain ⟨bound', rfl⟩ := List.getElem?_eq_some_iff.mp hlast
  have behind : ¬ j < k := fun before =>
    List.pairwise_iff_getElem.mp h.order.started j k bound' bound before ⟨hland, hstart⟩
  have apart : j ≠ k := by
    rintro rfl
    exact absurd hstart (by simp [(apart_isLand _ hland).1])
  -- The approach carries a waypoint or an orbit, and no item carries two commands.
  have adjacent : k ≠ j - 1 := by
    rintro rfl
    obtain ⟨_, _, length, -⟩ := leads.shallow
    obtain rfl : items[j - 1] = approach := by simpa [List.getElem?_eq_getElem bound] using happroach
    cases length with
    | waypoint carries => exact nomatch Item.carries_unique carries hstart
    | orbit carries => exact nomatch Item.carries_unique carries hstart
  omega

theorem any_opensLanding (h : FixedWingSequence ctx items) : items.any (opensLanding isLand) = items.any isLand := by
  rw [Bool.eq_iff_iff, List.any_eq_true, List.any_eq_true]
  constructor
  · rintro ⟨item, hitem, opens⟩
    rcases Bool.or_eq_true_iff.mp opens with hland | hstart
    · exact ⟨item, hitem, hland⟩
    · obtain ⟨index, hfound⟩ := List.mem_iff_getElem?.mp hitem
      obtain ⟨later, land, -, hlater, hland⟩ := h.served index item hfound hstart
      exact ⟨land, List.mem_of_getElem? hlater, hland⟩
  · rintro ⟨land, hmem, hland⟩
    exact ⟨land, hmem, by simp [opensLanding, hland]⟩

end FixedWingSequence

theorem fixedWingLanding_onList {flags : Flags} (hcount : ctx.count = items.length) (hlanding : flags.landing = false) :
    Passes ((fixedWingLanding (ctx.onList id items) flags).run ()).1 ↔ FixedWingSequence ctx items :=
  (landingSequence_passes_iff fixedWingRules apart_isLand hcount hlanding).trans (fixedWingSequence_iff ctx id items).symm

theorem outcome_of_fixedWing {flags : Flags} {outcome : Outcome} (hcount : ctx.count = items.length)
    (hlanding : flags.landing = false)
    (answer : ((fixedWingLanding (ctx.onList id items) flags).run ()).1 = .ok outcome)
    (passed : outcome.passed = true) : outcome = .pass { flags with landing := items.any isLand } := by
  have sequence := (fixedWingLanding_onList hcount hlanding).mp ⟨outcome, answer, passed⟩
  rw [← sequence.any_opensLanding]
  exact landing_of_passed fixedWingRules apart_isLand hcount hlanding answer passed

theorem fixedWingLanding_passes_iff (ctx : Context σ) (items : List Item) (flags : Flags) (store : σ)
    (hheld : ctx.Holds items store) (hlanding : flags.landing = false) :
    (Passes ((fixedWingLanding ctx flags).run store).1 ↔ FixedWingSequence ctx items) ∧
      ∀ outcome, ((fixedWingLanding ctx flags).run store).1 = .ok outcome → outcome.passed = true →
        (outcome.flags.landing = true ↔ ∃ land ∈ items, isLand land = true) ∧
          ∀ (k j : Nat) start land, items[k]? = some start → isLandStart start = true → items[j]? = some land →
            isLand land = true → k < j - 1 := by
  obtain ⟨R, hstore, reads⟩ := hheld.agree ""
  have ran : ((fixedWingLanding ctx flags).run store).1 = ((fixedWingLanding (ctx.onList "" items) flags).run ()).1 :=
    (landing_agree reads .fixedWing store () hstore).1
  rw [ran]
  refine ⟨fixedWingLanding_onList hheld.1 hlanding, fun outcome answer passed => ⟨?_, ?_⟩⟩
  · rw [outcome_of_fixedWing hheld.1 hlanding answer passed]
    exact List.any_eq_true
  · have sequence := (fixedWingLanding_onList hheld.1 hlanding).mp ⟨outcome, answer, passed⟩
    exact fun k j start land => sequence.approach_behind

theorem fixedWingLanding_passes_kilometer :
    let items : List Item := [{ code := Command.doLandStart.code },
      { code := Command.waypoint.code, lat := 47.39, lon := 8.54, altitude := 40.0 },
      { code := Command.land.code, lat := 47.4, lon := 8.54 }]
    let known : Context Unit :=
      { read := fun _ => .ofExcept (.error (.storage "gone")), count := 3
        vehicle := { airframe := .fixedWing, home := .ofNumbers 47.39 8.54 488.0 }
        fence := .unlimited, distance := Geodesy.distance, hasPosition := Item.hasPosition }
    (known.onList "m" items).Holds items () ∧ FixedWingSequence (known.onList "m" items) items := by
  intro items known
  have held : (known.onList "m" items).Holds items () := Context.holds_onList rfl "m"
  have passes : Passes ((fixedWingLanding (known.onList "m" items) {}).run ()).1 := by decide +kernel
  exact ⟨held, (fixedWingLanding_passes_iff (known.onList "m" items) items {} () held rfl).1.mp passes⟩

end Preflight.Check
