import Preflight.Proofs.Check.Descent
import Preflight.Proofs.Check.TakeoffList
import Preflight.Proofs.Double
import Preflight.Proofs.Pass.Stored

namespace Preflight

open Check

/-- Ways to relate the numbers that the checks compare: two doubles, a double and a whole number, and the least height
of a takeoff and its height. -/
structure Comparison where
  le : Float → Float → Prop
  leWhole : Float → Int → Prop
  climbs : Float → Float → Prop

namespace Comparison

def holds : Comparison where
  le a b := a ≤ b
  leWhole x n := ∃ o, Double.compareWhole x n = some o ∧ o ≠ .gt
  climbs least height := least ≤ height ∨ (least - height).abs ≤ altitudeTolerance

def unviolated : Comparison where
  le a b := ¬ b < a
  leWhole x n := Double.compareWhole x n ≠ some .gt
  climbs least height := ¬ height < least ∨ isClose height least = true

/-- A takeoff that is too low but for the size of the numbers. -/
def IsExcused (least height : Float) : Prop :=
  height < least ∧ isClose height least = true ∧ ¬ (least - height).abs ≤ altitudeTolerance

def comparable : Comparison where
  le a b := a.isNaN = false ∧ b.isNaN = false
  leWhole x _ := x.isNaN = false
  climbs least height := (least.isNaN = false ∧ height.isNaN = false) ∧ ¬ IsExcused least height

end Comparison

def Limit.Admits (r : Comparison) : Limit → Float → Prop
  | meters x, distance => r.le distance x
  | whole n, distance => r.leWhole distance n
  | unusable _, _ => True

variable {σ : Type}

structure Bounded (r : Comparison) (ctx : Context σ) (limits : Limits) (items : List Item) : Prop where
  servo : ∀ item ∈ items, item.carries .doSetServo = true →
    r.le 0.0 (servo item) ∧ r.le (servo item) (Double.ofInt greatestServo)
  servoValue : ∀ item ∈ items, item.carries .doSetServo = true →
    r.le (-ctx.vehicle.actuatorLimit) (servoValue item) ∧ r.le (servoValue item) ctx.vehicle.actuatorLimit
  takeoff : ∀ item ∈ items, isTakeoff item = true →
    r.climbs (leastHeight ctx.vehicle item) (heightAboveHome ctx.vehicle item)
  between : limits.between.isOff = .ok false → ∀ last item before after,
    items.filter ctx.hasPosition = before ++ last :: item :: after →
      ∃ distance, ctx.distance item.lat item.lon last.lat last.lon = .ok distance ∧ limits.between.Admits r distance
  ceiling : ∀ ceiling, ctx.fence.ceiling = some ceiling → ∀ item ∈ items,
    ctx.hasPosition (item.toAmsl ctx.vehicle.home.altitude) = true →
      r.le (item.altitudeAmsl ctx.vehicle.home.altitude) ceiling
  landing : ctx.vehicle.airframe = .fixedWing → ∀ (index : Nat) land, items[index]? = some land → isLand land = true →
    ∃ approach angle distance greatest, 0 < index ∧ items[index - 1]? = some approach ∧
      ctx.vehicle.landingAngle = some angle ∧ approachDistance ctx index approach land = .ok (.ok distance) ∧
      Geodesy.maxGlideSlope angle = .ok greatest ∧
      r.le leastApproachHeight (approachHeight ctx.vehicle approach land) ∧
      r.le (glideSlope (approachHeight ctx.vehicle approach land) distance) greatest

theorem le_holds_iff {a b : Float} (h : Comparison.unviolated.le a b) :
    Comparison.holds.le a b ↔ Comparison.comparable.le a b := by
  change a ≤ b ↔ a.isNaN = false ∧ b.isNaN = false
  rw [Double.le_iff_of_not_lt h]
  exact and_comm

theorem leWhole_holds_iff {x : Float} {n : Int} (h : Comparison.unviolated.leWhole x n) :
    Comparison.holds.leWhole x n ↔ Comparison.comparable.leWhole x n := by
  change (∃ o, Double.compareWhole x n = some o ∧ o ≠ .gt) ↔ x.isNaN = false
  have number := Double.compareWhole_eq_none x n
  change Double.compareWhole x n ≠ some .gt at h
  rcases hcompare : Double.compareWhole x n with _ | o
  · have undefined := number.mp hcompare
    constructor
    · rintro ⟨o, ho, -⟩
      exact nomatch ho
    · intro defined
      exact absurd undefined (ne_true_of_eq_false defined)
  · rw [hcompare] at number h
    constructor
    · intro _
      exact eq_false_of_ne_true fun undefined => nomatch number.mpr undefined
    · intro _
      exact ⟨o, rfl, fun above => h (congrArg some above)⟩

theorem climbs_holds_iff {least height : Float} (h : Comparison.unviolated.climbs least height) :
    Comparison.holds.climbs least height ↔ Comparison.comparable.climbs least height := by
  change (least ≤ height ∨ (least - height).abs ≤ altitudeTolerance) ↔
    (least.isNaN = false ∧ height.isNaN = false) ∧ ¬ Comparison.IsExcused least height
  constructor
  · -- Either true comparison shows that both heights are numbers, the second through their difference.
    rintro (high | near)
    · exact ⟨Double.number_of_le high, fun excused => Double.not_lt_of_le high excused.1⟩
    · refine ⟨?_, fun excused => excused.2.2 near⟩
      have number := (Double.number_of_le near).1
      rw [Double.isNaN_abs] at number
      exact Double.number_of_sub number
  · rintro ⟨⟨hleast, hheight⟩, excused⟩
    by_cases low : height < least
    · right
      rcases h with high | close
      · exact absurd low high
      · by_contra far
        exact excused ⟨low, close, far⟩
    · exact .inl ((Double.le_iff_of_not_lt low).mpr ⟨hheight, hleast⟩)

structure Comparison.Entails (r s t : Comparison) : Prop where
  le : ∀ {a b}, r.le a b → s.le a b → t.le a b
  leWhole : ∀ {x n}, r.leWhole x n → s.leWhole x n → t.leWhole x n
  climbs : ∀ {least height}, r.climbs least height → s.climbs least height → t.climbs least height

variable {r s t : Comparison} {ctx : Context σ} {limits : Limits} {items : List Item}

theorem Comparison.Entails.admits (h : r.Entails s t) {limit : Limit} {distance : Float}
    (hr : limit.Admits r distance) (hs : limit.Admits s distance) : limit.Admits t distance := by
  cases limit with
  | meters x => exact h.le hr hs
  | whole n => exact h.leWhole hr hs
  | unusable kind => trivial

theorem Bounded.entails (h : r.Entails s t) (hr : Bounded r ctx limits items) (hs : Bounded s ctx limits items) :
    Bounded t ctx limits items := by
  constructor
  case servo =>
    intro item hitem hservo
    exact ⟨h.le (hr.servo item hitem hservo).1 (hs.servo item hitem hservo).1,
      h.le (hr.servo item hitem hservo).2 (hs.servo item hitem hservo).2⟩
  case servoValue =>
    intro item hitem hservo
    exact ⟨h.le (hr.servoValue item hitem hservo).1 (hs.servoValue item hitem hservo).1,
      h.le (hr.servoValue item hitem hservo).2 (hs.servoValue item hitem hservo).2⟩
  case takeoff =>
    intro item hitem htakeoff
    exact h.climbs (hr.takeoff item hitem htakeoff) (hs.takeoff item hitem htakeoff)
  case between =>
    intro on last item before after split
    obtain ⟨distance, measured, admitted⟩ := hr.between on last item before after split
    obtain ⟨_, again, admits⟩ := hs.between on last item before after split
    obtain rfl := Except.ok.inj (measured.symm.trans again)
    exact ⟨distance, measured, h.admits admitted admits⟩
  case ceiling =>
    intro ceiling hceiling item hitem hposition
    exact h.le (hr.ceiling ceiling hceiling item hitem hposition) (hs.ceiling ceiling hceiling item hitem hposition)
  case landing =>
    intro hairframe index land hfound hland
    obtain ⟨approach, angle, distance, greatest, hi, hbefore, hangle, hdistance, hgreatest, height, slope⟩ :=
      hr.landing hairframe index land hfound hland
    obtain ⟨_, _, _, _, -, hbefore', hangle', hdistance', hgreatest', height', slope'⟩ :=
      hs.landing hairframe index land hfound hland
    obtain rfl := Option.some.inj (hbefore.symm.trans hbefore')
    obtain rfl := Option.some.inj (hangle.symm.trans hangle')
    obtain rfl := Except.ok.inj (Except.ok.inj (hdistance.symm.trans hdistance'))
    obtain rfl := Except.ok.inj (hgreatest.symm.trans hgreatest')
    exact ⟨approach, angle, distance, greatest, hi, hbefore, hangle, hdistance, hgreatest, h.le height height',
      h.le slope slope'⟩

theorem bounded_holds_iff (h : Bounded .unviolated ctx limits items) :
    Bounded .holds ctx limits items ↔ Bounded .comparable ctx limits items := by
  constructor
  · refine h.entails ⟨fun h => ?_, fun h => ?_, fun h => ?_⟩
    · exact (le_holds_iff h).mp
    · exact (leWhole_holds_iff h).mp
    · exact (climbs_holds_iff h).mp
  · refine h.entails ⟨fun h => ?_, fun h => ?_, fun h => ?_⟩
    · exact (le_holds_iff h).mpr
    · exact (leWhole_holds_iff h).mpr
    · exact (climbs_holds_iff h).mpr

theorem admits_of_not_below {limit : Limit} {distance : Float} (h : limit.isBelow distance = false) :
    limit.Admits .unviolated distance := by
  cases limit with
  | meters x =>
    change ¬ x < distance
    simpa [Limit.isBelow] using h
  | whole n =>
    change Double.compareWhole distance n ≠ some .gt
    simpa [Limit.isBelow] using h
  | unusable kind => trivial

theorem climbs_of_not_tooLow {vehicle : Vehicle} {item : Item} (h : isTooLow vehicle item = false) :
    Comparison.unviolated.climbs (leastHeight vehicle item) (heightAboveHome vehicle item) := by
  change ¬ heightAboveHome vehicle item < leastHeight vehicle item ∨ _
  by_cases low : heightAboveHome vehicle item < leastHeight vehicle item
  · exact .inr (by simpa [isTooLow, low] using h)
  · exact .inl low

theorem landing_unviolated (hcount : ctx.count = items.length) {id : String} {flags : Flags} {outcome : Outcome}
    (h : (fixedWingLanding (ctx.onList id items) flags).run () = (.ok outcome, ())) (hpassed : outcome.passed = true)
    {index : Nat} {land : Item} (hfound : items[index]? = some land) (hland : isLand land = true) :
    ∃ approach angle distance greatest, 0 < index ∧ items[index - 1]? = some approach ∧
      ctx.vehicle.landingAngle = some angle ∧ approachDistance ctx index approach land = .ok (.ok distance) ∧
      Geodesy.maxGlideSlope angle = .ok greatest ∧
      Comparison.unviolated.le leastApproachHeight (approachHeight ctx.vehicle approach land) ∧
      Comparison.unviolated.le (glideSlope (approachHeight ctx.vehicle approach land) distance) greatest := by
  obtain ⟨seen, -, -, hwalk⟩ := landingSequence_onList fixedWingRules hcount h hpassed
  have pass := landingsPass_of_walk hwalk index land hfound hland
  obtain ⟨angle, approach, hangle, hi, hbefore, leads⟩ := fixedWingStep_passes_iff.mp pass
  obtain ⟨distance, greatest, measured, hgreatest, slope⟩ := leads.shallow
  exact ⟨approach, angle, distance, greatest, hi, hbefore, hangle, approachDistance_eq_ok.mpr measured, hgreatest,
    leads.above, slope⟩

theorem bounded_of_clears {id : String} (hcount : ctx.count = items.length)
    (h : Pass.Clears (ctx.onList id items) limits Stage.all {} ()) : Bounded .unviolated ctx limits items := by
  constructor
  case servo =>
    intro item hitem hservo
    obtain ⟨_, _, _, _, ran, passed⟩ := h.stage (show Stage.validity ∈ Stage.all by decide)
    obtain ⟨index, valid⟩ := validity_onList hcount ran passed item hitem
    exact (servo_of_invalidity valid hservo).1
  case servoValue =>
    intro item hitem hservo
    obtain ⟨_, _, _, _, ran, passed⟩ := h.stage (show Stage.validity ∈ Stage.all by decide)
    obtain ⟨index, valid⟩ := validity_onList hcount ran passed item hitem
    exact (servo_of_invalidity valid hservo).2
  case takeoff =>
    intro item hitem htakeoff
    obtain ⟨_, _, _, _, ran, passed⟩ := h.stage (show Stage.takeoff ∈ Stage.all by decide)
    exact climbs_of_not_tooLow ((takeoff_onList hcount ran passed).2 item hitem htakeoff)
  case between =>
    intro on last item before after split
    obtain ⟨_, _, _, _, ran, passed⟩ := h.stage (show Stage.between ∈ Stage.all by decide)
    have chain := betweenDistance_onList hcount ran passed on
    obtain ⟨index, near⟩ := List.isChain_iff_forall_rel_of_append_cons_cons.mp chain split
    obtain ⟨distance, measured, within⟩ := neighbourFault_none near
    exact ⟨distance, measured, admits_of_not_below within⟩
  case ceiling =>
    intro ceiling hceiling item hitem hposition
    obtain ⟨_, _, _, _, ran, passed⟩ := h.stage (show Stage.fence ∈ Stage.all by decide)
    exact fence_onList hcount ran passed hceiling item hitem hposition
  case landing =>
    intro hairframe index land hfound hland
    obtain ⟨flags, before, outcome, after, ran, passed⟩ := h.stage (show Stage.landing ∈ Stage.all by decide)
    change (Check.landing ctx.vehicle.airframe (ctx.onList id items) flags).run () = _ at ran
    rw [hairframe] at ran
    exact landing_unviolated hcount ran passed hfound hland

/-- The bounds of an accepted mission hold if and only if the numbers they are about can be compared and no takeoff is
excused for its size. -/
theorem bounded_iff_of_accepts (c : Checker σ) (mission : Mission) (limits : Limits) (store : σ) (items : List Item)
    (hheld : c.Holds mission items store) (haccepts : (c.check mission limits store).Accepts) :
    Bounded .holds (c.context mission) limits items ↔ Bounded .comparable (c.context mission) limits items := by
  obtain ⟨hcount, clears⟩ := Checker.clears_onList hheld haccepts
  exact bounded_holds_iff (bounded_of_clears hcount clears)

theorem bounded_of_accepts_takeoff :
    let items : List Item := [{ code := Command.takeoff.code, altitude := 20.0 }]
    let c : Checker MemoryStore := { read := MemoryStore.read, vehicle := { home := .ofNumbers 0.0 0.0 488.0 } }
    let mission := MemoryStore.handle "m" items
    let store := MemoryStore.insert {} "m" items
    c.Holds mission items store ∧ (c.check mission {} store).Accepts ∧ Bounded .holds (c.context mission) {} items := by
  intro items c mission store
  have held : c.Holds mission items store := Checker.holds_memory rfl (MemoryStore.find?_insert_self {} "m" items)
  have accepts : (c.check mission {} store).Accepts := by decide +kernel
  refine ⟨held, accepts, (bounded_iff_of_accepts c mission {} store items held accepts).mpr ?_⟩
  constructor
  case servo =>
    intro item hitem hservo
    obtain rfl := List.mem_singleton.mp hitem
    exact absurd hservo (by decide)
  case servoValue =>
    intro item hitem hservo
    obtain rfl := List.mem_singleton.mp hitem
    exact absurd hservo (by decide)
  case takeoff =>
    intro item hitem _
    obtain rfl := List.mem_singleton.mp hitem
    refine ⟨by decide +kernel, fun excused => absurd excused.1 (by decide +kernel)⟩
  case between => exact fun on => absurd on (by decide +kernel)
  case ceiling => nofun
  case landing => nofun

theorem accepts_unbounded_takeoff :
    let items : List Item := [{ code := Command.takeoff.code, altitude := Double.nan }]
    let c : Checker MemoryStore := { read := MemoryStore.read, vehicle := { home := .ofNumbers 0.0 0.0 488.0 } }
    let mission := MemoryStore.handle "m" items
    (c.check mission {} (MemoryStore.insert {} "m" items)).Accepts ∧ ¬ Bounded .holds (c.context mission) {} items := by
  intro items c mission
  refine ⟨by decide +kernel, fun bounded => ?_⟩
  have climbs := bounded.takeoff { code := Command.takeoff.code, altitude := Double.nan } (by simp [items]) (by decide)
  change _ ≤ _ ∨ _ ≤ _ at climbs
  exact absurd climbs (by decide +kernel)

end Preflight
