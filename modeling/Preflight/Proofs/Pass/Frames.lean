import Preflight.Proofs.Double.Same
import Preflight.Proofs.Pass.Indistinct

namespace Preflight

variable {σ τ : Type} {items items' : List Item}

namespace Check

variable {x y : Float}

theorem isClose_of_equal (h : Double.Equal x.toModel.unpack y.toModel.unpack) (b : Float) :
    isClose x b = isClose y b := by
  unfold isClose
  rw [Double.beq_of_equal h, Double.isInfinite_of_equal h, Double.abs_sub_of_equal h, Double.abs_mul_of_equal h]

theorem isTooLow_of_sameNumber {vehicle : Vehicle} {a b : Item}
    (hheight : Item.sameNumber (heightAboveHome vehicle b) (heightAboveHome vehicle a) = true)
    (hleast : leastHeight vehicle a = leastHeight vehicle b) : isTooLow vehicle a = isTooLow vehicle b := by
  rw [isTooLow, isTooLow, hleast]
  rw [Item.sameNumber, Bool.or_eq_true, Bool.and_eq_true] at hheight
  rcases hheight with equal | ⟨undefined, undefined'⟩
  · have equal := Double.equal_of_beq equal
    rw [isClose_of_equal equal, decide_eq_decide.mpr (Double.lt_of_equal equal _)]
  · rw [decide_eq_false (Double.not_lt_of_bne undefined _), decide_eq_false (Double.not_lt_of_bne undefined' _),
      Bool.false_and, Bool.false_and]

end Check

/-- An item as it stands, or with its altitude above sea level for a home at `altitude`. Whether a takeoff climbs
high enough is read off its altitude over home, so resolving it must not lose that one to rounding. -/
inductive Item.Reframed (altitude : Float) (a : Item) : Item → Prop
  | kept : Reframed altitude a a
  | resolved (lossless : Check.isTakeoff a = true → a.relative = true →
      sameNumber (a.altitude + altitude - altitude) a.altitude = true) : Reframed altitude a (a.toAmsl altitude)

theorem Item.toAmsl_of_relative {a : Item} (h : a.relative = true) (altitude : Float) :
    a.toAmsl altitude = { a with altitude := a.altitude + altitude, relative := false } := if_pos h

theorem Item.toAmsl_of_absolute {a : Item} (h : a.relative = false) (altitude : Float) : a.toAmsl altitude = a :=
  if_neg (by simp [h])

theorem Item.Reframed.indistinct {vehicle : Vehicle} {a b : Item} (hknown : vehicle.home.known = true)
    (haltitude : vehicle.home.altitudeKnown = true) (h : a.Reframed vehicle.home.altitude b) :
    a.Indistinct vehicle b := by
  cases h with
  | kept => exact .refl vehicle a
  | resolved lossless =>
    cases hrelative : a.relative with
    | false =>
      rw [toAmsl_of_absolute hrelative]
      exact .refl vehicle a
    | true =>
      have unplaced (relative : Bool) : (relative && !vehicle.home.known) = false := by
        rw [hknown]
        exact Bool.and_false relative
      have unresolved (relative : Bool) : (relative && !vehicle.home.altitudeKnown) = false := by
        rw [haltitude]
        exact Bool.and_false relative
      have height : Check.heightAboveHome vehicle a = a.altitude := if_pos hrelative
      rw [toAmsl_of_relative hrelative]
      refine ⟨rfl, fun _ => ⟨rfl, rfl⟩, fun _ => if_pos hrelative, (unplaced _).trans (unplaced _).symm,
        (unresolved _).trans (unresolved _).symm, ?_, fun _ => rfl, fun _ => ⟨rfl, rfl⟩⟩
      intro htakeoff
      refine ⟨rfl, Check.isTooLow_of_sameNumber ?_ rfl⟩
      rw [height]
      exact lossless htakeoff hrelative

theorem verdict_of_reframed (c : Checker σ) (read : Source τ) (mission mission' : Mission) (limits : Limits)
    (store : σ) (store' : τ) (hposition : c.hasPosition = Item.hasPosition) (hknown : c.vehicle.home.known = true)
    (haltitude : c.vehicle.home.altitudeKnown = true) (hheld : c.Holds mission items store)
    (hheld' : (c.withSource read).Holds mission' items' store')
    (hreframed : List.Forall₂ (Item.Reframed c.vehicle.home.altitude) items items') :
    (c.check mission limits store).verdict = ((c.withSource read).check mission' limits store').verdict :=
  Checker.verdict_congr hposition hheld hheld'
    (hreframed.imp fun _ _ reframed => reframed.indistinct hknown haltitude) limits

theorem verdict_of_reframed_takeoff :
    let takeoff : Item := { code := Command.takeoff.code, lat := 47.39, lon := 8.54, altitude := 30.0 }
    let waypoint : Item := { code := Command.waypoint.code, lat := 47.391, lon := 8.54, altitude := 0.1 }
    let land : Item := { code := Command.land.code, lat := 47.392, lon := 8.54 }
    let items := [takeoff, waypoint, land]
    let items' := [takeoff.toAmsl 488.0, waypoint.toAmsl 488.0, land]
    let c : Checker MemoryStore :=
      { read := MemoryStore.read, vehicle := { home := .ofNumbers 47.39 8.54 488.0, presence := Presence.both.number } }
    let answer (items : List Item) : Answer MemoryStore :=
      c.check (MemoryStore.handle "m" items) {} (MemoryStore.insert {} "m" items)
    Item.sameNumber (0.1 + 488.0 - 488.0) 0.1 = false ∧ (answer items).verdict = (answer items').verdict ∧
      (answer items').Accepts := by
  intro takeoff waypoint land items items' c answer
  have held (items : List Item) : c.Holds (MemoryStore.handle "m" items) items (MemoryStore.insert {} "m" items) :=
    Checker.holds_memory rfl (MemoryStore.find?_insert_self {} "m" items)
  have reframed : List.Forall₂ (Item.Reframed 488.0) items items' := by
    refine .cons (.resolved ?_) (.cons (.resolved ?_) (.cons .kept .nil))
    · intro _ _
      decide +kernel
    · intro htakeoff
      exact absurd htakeoff (by decide)
  have accepts : (answer items').Accepts := by decide +kernel
  exact ⟨by decide +kernel, verdict_of_reframed c MemoryStore.read _ _ {} _ _ rfl rfl rfl (held items) (held items')
    reframed, accepts⟩

end Preflight
