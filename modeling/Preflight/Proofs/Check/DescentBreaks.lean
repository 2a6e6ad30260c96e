import Preflight.Proofs.Check.Breaks
import Preflight.Proofs.Check.Descent
import Preflight.Proofs.Check.VtolLanding

namespace Preflight.Check

variable {σ : Type} {ctx : Context σ} {id : String} {items : List Item} {flags : Flags} {angle height length : Float}
  {approach land : Item}

inductive SlopeUnreportable (angle height length greatest : Float) : Prop
  | altitude (endless : Double.isFinite (greatest * length) = false)
  | level (level : (greatest == 0.0) = true)
  | distance (endless : Double.isFinite (height / greatest) = false)
  | degrees (endless : Double.isFinite angle = false)
  | tenths {whole : Int} (floor : Double.floor angle = .value whole)
      (endless : Double.isFinite ((angle - Double.ofInt whole) * 10.0) = false)

inductive DescentUnjudged (ctx : Context σ) (angle : Float) (approach land : Item) : Prop
  | unmeasured (carries : approach.carries .waypoint = true ∨ approach.carries .loiterToAlt = true)
      (broken : Breaks (ctx.distance approach.lat approach.lon land.lat land.lon))
  | untangent {center : Float} (carries : approach.carries .loiterToAlt = true)
      (measured : ctx.distance approach.lat approach.lon land.lat land.lon = .ok center)
      (outside : ¬ center ≤ approach.loiterRadius.abs)
      (broken : Breaks (Geodesy.tangentExit center approach.loiterRadius.abs))
  | unlimited {length : Float} (measured : ApproachLength ctx approach land length)
      (broken : Breaks (Geodesy.maxGlideSlope angle))
  | unreportable {length greatest : Float} (measured : ApproachLength ctx approach land length)
      (limited : Geodesy.maxGlideSlope angle = .ok greatest)
      (steep : greatest < glideSlope (approachHeight ctx.vehicle approach land) length)
      (unreportable : SlopeUnreportable angle (approachHeight ctx.vehicle approach land) length greatest)

theorem breaks_tenthsOf : Breaks (tenthsOf angle) ↔ Double.isFinite angle = false ∨
    ∃ whole, Double.floor angle = .value whole ∧ Double.isFinite ((angle - Double.ofInt whole) * 10.0) = false := by
  rw [tenthsOf, breaks_bind, breaks_floorOf]
  refine or_congr_right ⟨?_, ?_⟩
  · rintro ⟨whole, hfloor, broken⟩
    refine ⟨whole, ?_, breaks_wholeOf.mp broken⟩
    unfold floorOf at hfloor
    cases hpart : Double.floor angle with
    | value n =>
      rw [hpart] at hfloor
      exact congrArg _ (Except.ok.inj hfloor)
    | _ =>
      rw [hpart] at hfloor
      exact nomatch hfloor
  · rintro ⟨whole, hfloor, endless⟩
    exact ⟨whole, by rw [floorOf, hfloor]; rfl, breaks_wholeOf.mpr endless⟩

theorem breaks_needed {greatest : Float} : Breaks (divide height greatest >>= ceilingOf) ↔
    (greatest == 0.0) = true ∨ Double.isFinite (height / greatest) = false := by
  rw [divide]
  split
  next level => exact iff_of_true (breaks_error _) (.inl level)
  next steep => exact breaks_ceilingOf.trans (or_iff_right steep).symm

theorem breaks_slopeReport {greatest : Float} {report : Int → Int → Int → Int → Finding} :
    Breaks (do
        let altitude ← wholeOf (greatest * length)
        let needed ← ceilingOf (← divide height greatest)
        return some (report (← wholeOf angle) (← tenthsOf angle) altitude needed)) ↔
      SlopeUnreportable angle height length greatest := by
  have parts : Breaks (do
        let altitude ← wholeOf (greatest * length)
        let needed ← ceilingOf (← divide height greatest)
        return some (report (← wholeOf angle) (← tenthsOf angle) altitude needed)) ↔
      Breaks (wholeOf (greatest * length)) ∨ Breaks (divide height greatest >>= ceilingOf) ∨ Breaks (wholeOf angle) ∨
        Breaks (tenthsOf angle) ∨ False := by
    refine breaks_bind_of fun altitude => ?_
    rw [← bind_assoc]
    refine breaks_bind_of fun needed => breaks_bind_of fun degrees => breaks_bind_of fun tenths => ?_
    exact iff_of_false (not_breaks_ok _) not_false
  rw [parts, breaks_wholeOf, breaks_needed, breaks_wholeOf, breaks_tenthsOf, or_false]
  constructor
  · rintro (endless | (level | endless) | endless | endless | ⟨whole, floor, endless⟩)
    · exact .altitude endless
    · exact .level level
    · exact .distance endless
    · exact .degrees endless
    · exact .degrees endless
    · exact .tenths floor endless
  · rintro (endless | level | endless | endless | ⟨floor, endless⟩)
    · exact .inl endless
    · exact .inr (.inl (.inl level))
    · exact .inr (.inl (.inr endless))
    · exact .inr (.inr (.inl endless))
    · exact .inr (.inr (.inr (.inr ⟨_, floor, endless⟩)))

theorem breaks_slopeFault {index : Nat} : Breaks (slopeFault angle height length index) ↔
    Breaks (Geodesy.maxGlideSlope angle) ∨ ∃ greatest, Geodesy.maxGlideSlope angle = .ok greatest ∧
      greatest < glideSlope height length ∧ SlopeUnreportable angle height length greatest := by
  rw [slopeFault, breaks_bind]
  refine or_congr_right (exists_congr fun greatest => and_congr_right fun _ => ?_)
  split
  next steep => exact breaks_slopeReport.trans (and_iff_right steep).symm
  next shallow => exact iff_of_false (not_breaks_ok _) fun h => shallow h.1

theorem breaks_approachDistance {index : Nat} : Breaks (approachDistance ctx index approach land) ↔
    ((approach.carries .waypoint = true ∨ approach.carries .loiterToAlt = true) ∧
        Breaks (ctx.distance approach.lat approach.lon land.lat land.lon)) ∨
      approach.carries .loiterToAlt = true ∧ ∃ center,
        ctx.distance approach.lat approach.lon land.lat land.lon = .ok center ∧
        ¬ center ≤ approach.loiterRadius.abs ∧ Breaks (Geodesy.tangentExit center approach.loiterRadius.abs) := by
  unfold approachDistance
  cases orbit : approach.carries .loiterToAlt with
  | true =>
    rw [if_pos rfl, breaks_bind, and_iff_right (.inr rfl), and_iff_right rfl]
    refine or_congr_right (exists_congr fun center => and_congr_right fun _ => ?_)
    dsimp only
    split
    next inside => exact iff_of_false (not_breaks_ok _) fun h => h.1 inside
    next outside =>
      rw [and_iff_right outside]
      refine (breaks_bind_of fun exit => ?_).trans (or_iff_left not_false)
      exact iff_of_false (not_breaks_ok _) not_false
  | false =>
    rw [if_neg nofun]
    cases straight : approach.carries .waypoint with
    | true =>
      rw [if_pos rfl]
      refine (breaks_bind_of fun distance => iff_of_false (not_breaks_ok _) not_false).trans ?_
      simp
    | false => exact iff_of_false (not_breaks_ok _) (by simp)

theorem breaks_approachFault {index : Nat} : Breaks (approachFault ctx angle index approach land) ↔
    ctx.hasPosition approach = true ∧ ¬ approachHeight ctx.vehicle approach land < leastApproachHeight ∧
      DescentUnjudged ctx angle approach land := by
  rw [approachFault_eq]
  cases located : ctx.hasPosition approach with
  | false => exact iff_of_false (not_breaks_ok _) nofun
  | true =>
    rw [if_neg (by simp), and_iff_right rfl]
    split
    next below => exact iff_of_false (not_breaks_ok _) fun h => h.1 below
    next above =>
      rw [and_iff_right above, breaks_bind, breaks_approachDistance]
      constructor
      · rintro ((⟨carries, broken⟩ | ⟨carries, center, measured, outside, broken⟩) | ⟨answer, measured, broken⟩)
        · exact .unmeasured carries broken
        · exact .untangent carries measured outside broken
        · cases answer with
          | error finding => exact absurd broken (not_breaks_ok _)
          | ok length =>
            have measured := approachDistance_eq_ok.mp measured
            rcases breaks_slopeFault.mp broken with broken | ⟨greatest, limited, steep, unreportable⟩
            · exact .unlimited measured broken
            · exact .unreportable measured limited steep unreportable
      · rintro (⟨carries, broken⟩ | ⟨carries, measured, outside, broken⟩ | ⟨measured, broken⟩ |
          ⟨measured, limited, steep, unreportable⟩)
        · exact .inl (.inl ⟨carries, broken⟩)
        · exact .inl (.inr ⟨carries, _, measured, outside, broken⟩)
        · refine .inr ⟨.ok _, approachDistance_eq_ok.mpr measured, ?_⟩
          exact breaks_slopeFault.mpr (.inl broken)
        · refine .inr ⟨.ok _, approachDistance_eq_ok.mpr measured, ?_⟩
          exact breaks_slopeFault.mpr (.inr ⟨_, limited, steep, unreportable⟩)

variable (numeric : ∀ lat₁ lon₁ lat₂ lon₂, Numeric (ctx.distance lat₁ lon₁ lat₂ lon₂))

theorem numeric_slopeFault (angle height length : Float) (index : Nat) :
    Numeric (slopeFault angle height length index) := by
  refine numeric_bind (Geodesy.numeric_inDomain _) fun greatest => numeric_ite ?_ (numeric_ok _)
  refine numeric_bind (numeric_wholeOfReal _) fun altitude => ?_
  refine numeric_bind (numeric_ite (numeric_error rfl) (numeric_ok _)) fun quotient => ?_
  refine numeric_bind (numeric_wholeOfReal _) fun needed => numeric_bind (numeric_wholeOfReal _) fun degrees => ?_
  refine numeric_bind (numeric_bind (numeric_wholeOfReal _) fun whole => ?_) fun tenths => numeric_ok _
  exact numeric_wholeOfReal _

include numeric in
theorem numeric_approachFault (angle : Float) (index : Nat) (approach land : Item) :
    Numeric (approachFault ctx angle index approach land) := by
  rw [approachFault_eq]
  refine numeric_ite (numeric_ok _) (numeric_ite (numeric_ok _) (numeric_bind ?_ fun answer => ?_))
  · unfold approachDistance
    dsimp only
    refine numeric_ite (numeric_bind (numeric _ _ _ _) fun center => numeric_ite (numeric_ok _) ?_)
      (numeric_ite (numeric_bind (numeric _ _ _ _) fun distance => numeric_ok _) (numeric_ok _))
    exact numeric_bind (Geodesy.numeric_sqrt _) fun exit => numeric_ok _
  · cases answer with
    | error finding => exact numeric_ok _
    | ok length => exact numeric_slopeFault _ _ _ _

theorem run_fixedWingStep (ctx : Context σ) (id : String) (before : List Item) (land : Item) (after : List Item) :
    ((fixedWingStep (ctx.onList id (before ++ land :: after)) before.length land).run ()).1 =
      match ctx.vehicle.landingAngle, before.getLast? with
      | none, _ => .ok (some (.landingAngleMissing before.length))
      | some _, none => .ok (some (.startsWithLanding false))
      | some angle, some approach => approachFault ctx angle before.length approach land := by
  cases hangle : ctx.vehicle.landingAngle with
  | none =>
    rw [fixedWingStep_missing (show (ctx.onList id (before ++ land :: after)).vehicle.landingAngle = none from hangle)]
    rfl
  | some angle =>
    rw [fixedWingStep_angle (show (ctx.onList id (before ++ land :: after)).vehicle.landingAngle = some angle from hangle)]
    rcases List.eq_nil_or_concat before with rfl | ⟨earlier, approach, hbefore⟩
    · rfl
    · rw [List.concat_eq_append] at hbefore
      subst hbefore
      have read : ((ctx.onList id (earlier ++ [approach] ++ land :: after)).read earlier.length).run () =
          (.ok approach, ()) := Prod.ext (itemAt_eq_ok.mpr (by simp)) rfl
      have last : (earlier ++ [approach]).length - 1 = earlier.length := by simp
      rw [if_neg (by simp), last, Reads.run_bind, read, List.getLast?_concat]
      rfl

section

variable {rules : LandingRules Unit} {ctx : Context Unit} {index : Nat} {item : Item} {seen : LandingScan}
  (clean : Numeric ((rules.step ctx index item).run ()).1)

include clean

theorem numeric_visitLanding : Numeric ((visitLanding rules ctx index item seen).run ()).1 := by
  rw [visitLanding_eq]
  split
  · exact numeric_ok _
  · split
    · rcases hstep : (rules.step ctx index item).run () with ⟨fault | answer, ⟨⟩⟩
      · rw [hstep] at clean
        rw [Reads.run_bind, Reads.attempt_error hstep fun reason storage => clean.ne_storage reason (storage ▸ rfl)]
        exact numeric_error (clean fault rfl)
      · rw [Reads.run_bind, Reads.run_attempt, hstep]
        exact numeric_ok _
    · split
      · exact numeric_ok _
      · exact numeric_ok _

theorem breaks_visitLanding (apart : Apart rules.lands) :
    Breaks ((visitLanding rules ctx index item seen).run ()).1 ↔
      rules.lands item = true ∧ Breaks ((rules.step ctx index item).run ()).1 := by
  rw [visitLanding_eq]
  split
  next again =>
    refine iff_of_false (not_breaks_ok _) fun h => ?_
    have start : isLandStart item = true := (Bool.and_eq_true_iff.mp again).1
    exact nomatch (apart item h.1).1.symm.trans start
  next =>
    split
    next hlands =>
      rw [and_iff_right hlands]
      rcases hstep : (rules.step ctx index item).run () with ⟨fault | answer, ⟨⟩⟩
      · rw [hstep] at clean
        rw [Reads.run_bind, Reads.attempt_error hstep fun reason storage => clean.ne_storage reason (storage ▸ rfl)]
        exact iff_of_true ⟨fault, rfl⟩ ⟨fault, rfl⟩
      · rw [Reads.run_bind, Reads.run_attempt, hstep]
        exact iff_of_false (not_breaks_ok _) (not_breaks_ok _)
    next hlands =>
      refine iff_of_false ?_ fun h => hlands h.1
      split
      · exact not_breaks_ok _
      · exact not_breaks_ok _

end

/-- After a landing sequence in order and without a fault, a landing is reached whose descent cannot be judged. -/
def LandingBreaks (ctx : Context σ) (items : List Item) : Prop :=
  ∃ before land after angle approach, items = before ++ land :: after ∧ InLandingOrder isLand before ∧
    LandingsDescend ctx before ∧ isLand land = true ∧ ctx.vehicle.landingAngle = some angle ∧
    before.getLast? = some approach ∧ ctx.hasPosition approach = true ∧
    ¬ approachHeight ctx.vehicle approach land < leastApproachHeight ∧ DescentUnjudged ctx angle approach land

include numeric in
theorem numeric_fixedWingStep (before : List Item) (land : Item) (after : List Item) :
    Numeric ((fixedWingStep (ctx.onList id (before ++ land :: after)) before.length land).run ()).1 := by
  rw [run_fixedWingStep]
  cases ctx.vehicle.landingAngle with
  | none => exact numeric_ok _
  | some angle =>
    cases before.getLast? with
    | none => exact numeric_ok _
    | some approach => exact numeric_approachFault numeric angle before.length approach land

theorem breaks_fixedWingStep {before : List Item} {land : Item} {after : List Item} :
    Breaks ((fixedWingStep (ctx.onList id (before ++ land :: after)) before.length land).run ()).1 ↔
      ∃ angle approach, ctx.vehicle.landingAngle = some angle ∧ before.getLast? = some approach ∧
        ctx.hasPosition approach = true ∧ ¬ approachHeight ctx.vehicle approach land < leastApproachHeight ∧
        DescentUnjudged ctx angle approach land := by
  rw [run_fixedWingStep]
  cases ctx.vehicle.landingAngle with
  | none => exact iff_of_false (not_breaks_ok _) nofun
  | some angle =>
    cases before.getLast? with
    | none => exact iff_of_false (not_breaks_ok _) nofun
    | some approach =>
      refine breaks_approachFault.trans ⟨fun h => ⟨angle, approach, rfl, rfl, h⟩, ?_⟩
      rintro ⟨_, _, ⟨⟩, ⟨⟩, h⟩
      exact h

theorem landingsPass_before {before after : List Item} :
    LandingsPass fixedWingRules (ctx.onList id (before ++ after)) before ↔ LandingsDescend ctx before := by
  refine forall₂_congr fun index land => forall₂_congr fun hfound _ => ?_
  obtain ⟨bound, -⟩ := List.getElem?_eq_some_iff.mp hfound
  refine fixedWingStep_passes_iff.trans (exists₂_congr fun angle approach => and_congr_right fun _ => ?_)
  rw [List.getElem?_append_left (by omega)]

include numeric

theorem visits_numeric (before : List Item) (item : Item) (after : List Item) (seen : LandingScan)
    (hitems : items = before ++ item :: after) :
    Numeric ((visitLanding fixedWingRules (ctx.onList id items) before.length item seen).run ()).1 := by
  subst hitems
  exact numeric_visitLanding (numeric_fixedWingStep numeric before item after)

theorem fixedWingLanding_numeric (hcount : ctx.count = items.length) (hlanding : flags.landing = false) :
    Numeric ((fixedWingLanding (ctx.onList id items) flags).run ()).1 := by
  rw [fixedWingLanding, run_landingSequence fixedWingRules hcount hlanding]
  exact numeric_map _ (numeric_walk (visits_numeric numeric))

theorem fixedWingLanding_breaks_iff (hcount : ctx.count = items.length) (hlanding : flags.landing = false) :
    Breaks ((fixedWingLanding (ctx.onList id items) flags).run ()).1 ↔ LandingBreaks ctx items := by
  rw [fixedWingLanding, run_landingSequence fixedWingRules hcount hlanding, breaks_map, walkLanding,
    breaks_walk (visits_numeric numeric)]
  constructor
  · rintro ⟨before, land, after, seen, rfl, hwalk, broken⟩
    obtain ⟨-, order⟩ := walkLanding_going apart_isLand hwalk
    have pass := landingsPass_of_walk hwalk
    obtain ⟨hland, broken⟩ :=
      (breaks_visitLanding (numeric_fixedWingStep numeric before land after) apart_isLand).mp broken
    obtain ⟨angle, approach, hangle, hlast, unjudged⟩ := breaks_fixedWingStep.mp broken
    exact ⟨before, land, after, angle, approach, rfl, order, landingsPass_before.mp pass, hland, hangle, hlast, unjudged⟩
  · rintro ⟨before, land, after, angle, approach, rfl, order, descends, hland, hangle, hlast, unjudged⟩
    obtain ⟨seen, hwalk⟩ := walkLanding_goes apart_isLand order (landingsPass_before.mpr descends)
    refine ⟨before, land, after, seen, rfl, hwalk, ?_⟩
    refine (breaks_visitLanding (numeric_fixedWingStep numeric before land after) apart_isLand).mpr ⟨hland, ?_⟩
    exact breaks_fixedWingStep.mpr ⟨angle, approach, hangle, hlast, unjudged⟩

end Preflight.Check
