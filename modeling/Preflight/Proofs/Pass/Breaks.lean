import Preflight.Proofs.Check.DescentBreaks
import Preflight.Proofs.Pass.Stored

namespace Preflight

variable {σ : Type} {ctx : Context σ} {id : String} {items : List Item} {flags : Flags} {first between : Float}

def Stage.BreaksOff (ctx : Context σ) (first between : Float) (items : List Item) : Stage → Prop
  | .first => Check.FirstBreaks ctx first items
  | .validity => Check.ValidityBreaks ctx.vehicle items
  | .between => Check.NeighboursBreak ctx between items
  | .fence => Check.FenceBreaks ctx items
  | .landing => ctx.vehicle.airframe = .fixedWing ∧ Check.LandingBreaks ctx items
  | .homeAltitude | .takeoff | .presence => False

theorem Stage.mem_all (stage : Stage) : stage ∈ Stage.all := by cases stage <;> decide

theorem not_breaksOff_nil (stage : Stage) : ¬ stage.BreaksOff ctx first between [] := by
  cases stage with
  | first =>
    rintro ⟨-, -, item, hfirst, -⟩
    exact nomatch hfirst
  | validity =>
    rintro ⟨before, item, after, hitems, -⟩
    exact absurd hitems.symm (by simp)
  | between =>
    rintro ⟨-, before, item, after, last, hitems, -⟩
    exact absurd hitems.symm (by simp)
  | fence =>
    rintro ⟨-, -, before, item, after, hitems, -⟩
    exact absurd hitems.symm (by simp)
  | landing =>
    rintro ⟨-, before, land, after, angle, approach, hitems, -⟩
    exact absurd hitems.symm (by simp)
  | _ => exact not_false

section

variable (id : String) (first between : Float) (hcount : ctx.count = items.length)
  (numeric : ∀ lat₁ lon₁ lat₂ lon₂, Numeric (ctx.distance lat₁ lon₁ lat₂ lon₂))

include hcount numeric

omit first between in
theorem landing_breaks_iff (hlanding : flags.landing = false) (airframe : Airframe) :
    Breaks ((Check.landing airframe (ctx.onList id items) flags).run ()).1 ↔
      airframe = .fixedWing ∧ Check.LandingBreaks ctx items := by
  cases airframe with
  | fixedWing => exact (Check.fixedWingLanding_breaks_iff numeric hcount hlanding).trans (and_iff_right rfl).symm
  | rotaryWing =>
    have answer : ((Check.landing .rotaryWing (ctx.onList id items) flags).run ()).1 = _ := Check.run_anyLanding hcount
    rw [answer]
    exact iff_of_false (not_breaks_ok _) nofun
  | vtol =>
    obtain ⟨outcome, answer, -⟩ := Check.vtolLanding_ends ctx id hcount hlanding
    have answer : ((Check.landing .vtol (ctx.onList id items) flags).run ()).1 = .ok outcome := answer
    rw [answer]
    exact iff_of_false (not_breaks_ok _) nofun

theorem check_breaks_iff {stage : Stage} (hlanding : stage = .landing → flags.landing = false) :
    Breaks (((ctx.onList id items).check ⟨.meters first, .meters between⟩ stage flags).run ()).1 ↔
      stage.BreaksOff ctx first between items := by
  cases stage with
  | first => exact Check.first_breaks_iff numeric hcount
  | validity => exact Check.validity_breaks_iff hcount
  | between => exact Check.betweenDistance_breaks_iff numeric hcount
  | fence => exact Check.fence_breaks_iff hcount
  | homeAltitude =>
    change Breaks ((Check.homeAltitude (ctx.onList id items) flags).run ()).1 ↔ False
    rw [Check.homeAltitude_eq, breaks_settle hcount]
    exact iff_of_false (fun h => not_breaks_walk _ _ h.2) not_false
  | takeoff =>
    change Breaks ((Check.takeoff (ctx.onList id items) flags).run ()).1 ↔ False
    rw [Check.takeoff_eq, breaks_settle hcount]
    exact iff_of_false (fun h => not_breaks_walk _ _ h.2) not_false
  | landing => exact landing_breaks_iff id hcount numeric (hlanding rfl) ctx.vehicle.airframe
  | presence =>
    change Breaks ((Check.presence (ctx.onList id items) flags).run ()).1 ↔ False
    rw [Check.presence_run]
    exact iff_of_false (not_breaks_ok _) not_false

omit first between in
theorem landing_numeric (hlanding : flags.landing = false) (airframe : Airframe) :
    Numeric ((Check.landing airframe (ctx.onList id items) flags).run ()).1 := by
  have breaks := landing_breaks_iff id hcount numeric hlanding airframe
  cases airframe with
  | fixedWing => exact Check.fixedWingLanding_numeric numeric hcount hlanding
  | rotaryWing => exact numeric_of_not_breaks fun broken => nomatch (breaks.mp broken).1
  | vtol => exact numeric_of_not_breaks fun broken => nomatch (breaks.mp broken).1

theorem check_numeric {stage : Stage} (hlanding : stage = .landing → flags.landing = false) :
    Numeric (((ctx.onList id items).check ⟨.meters first, .meters between⟩ stage flags).run ()).1 := by
  have breaks : Breaks (((ctx.onList id items).check ⟨.meters first, .meters between⟩ stage flags).run ()).1 ↔
      stage.BreaksOff ctx first between items := check_breaks_iff id first between hcount numeric hlanding
  cases stage with
  | first => exact Check.first_numeric numeric hcount
  | validity => exact Check.validity_numeric hcount
  | between => exact Check.betweenDistance_numeric numeric hcount
  | fence => exact Check.fence_numeric hcount
  | landing => exact landing_numeric id hcount numeric (hlanding rfl) ctx.vehicle.airframe
  | _ => exact numeric_of_not_breaks breaks.mp

theorem runAll_fault (stages : List Stage) (flags : Flags) (hnodup : stages.Nodup)
    (hlanding : .landing ∈ stages → flags.landing = false) {trace : Pass.Trace Unit}
    (htrace : Pass.runAll (ctx.onList id items)
      (stages.map (Stage.check ctx.vehicle.airframe ⟨.meters first, .meters between⟩)) flags () = trace) :
    (trace.fault = none ↔ ∀ stage ∈ stages, ¬ stage.BreaksOff ctx first between items) ∧
      ∀ fault, trace.fault = some fault → fault.isNumeric = true := by
  subst htrace
  -- On the stages. No check but that of the landings records a landing, so none is recorded when it starts.
  induction stages generalizing flags with
  | nil => simp [Pass.runAll]
  | cons stage rest ih =>
    have now : stage = .landing → flags.landing = false := fun hstage => hlanding (by simp [hstage])
    have breaks := check_breaks_iff id first between hcount numeric now
    have clean := check_numeric id first between hcount numeric now
    rw [List.forall_mem_cons, ← breaks]
    rcases hrun : ((ctx.onList id items).check ⟨.meters first, .meters between⟩ stage flags).run () with
      ⟨fault | outcome, ⟨⟩⟩
    · rw [hrun] at clean
      change (stage.check ctx.vehicle.airframe _ (ctx.onList id items) flags).run () = _ at hrun
      rw [List.map_cons, Pass.runAll, hrun]
      refine ⟨iff_of_false (Option.some_ne_none fault) fun h => h.1 (breaks_error fault), ?_⟩
      rintro _ ⟨⟩
      exact clean fault rfl
    · have unrecorded := Context.unrecorded_of_check hnodup hlanding hrun
      rw [and_iff_right (not_breaks_ok outcome)]
      change (stage.check ctx.vehicle.airframe _ (ctx.onList id items) flags).run () = _ at hrun
      rw [List.map_cons, Pass.runAll, hrun]
      exact ih outcome.flags (List.nodup_cons.mp hnodup).2 unrecorded

end

theorem ends_iff_not_breaksOff (c : Checker σ) (mission : Mission) (first between : Float) (store : σ)
    (items : List Item) (hheld : c.Holds mission items store) (hdistance : c.distance = Geodesy.distance) :
    ((∃ verdict, (c.check mission ⟨.meters first, .meters between⟩ store).verdict = .ok verdict) ↔
        ∀ stage : Stage, ¬ stage.BreaksOff (c.context mission) first between items) ∧
      ∀ fault, (c.check mission ⟨.meters first, .meters between⟩ store).verdict = .error fault →
        fault.isNumeric = true := by
  have numeric : ∀ lat₁ lon₁ lat₂ lon₂, Numeric ((c.context mission).distance lat₁ lon₁ lat₂ lon₂) := by
    change ∀ lat₁ lon₁ lat₂ lon₂, Numeric (c.distance lat₁ lon₁ lat₂ lon₂)
    rw [hdistance]
    exact Geodesy.numeric_distance
  by_cases hcount : 0 < mission.count
  · have every : (∀ stage ∈ Stage.all, ¬ stage.BreaksOff (c.context mission) first between items) ↔
        ∀ stage : Stage, ¬ stage.BreaksOff (c.context mission) first between items :=
      forall_congr' fun stage => imp_iff_right (Stage.mem_all stage)
    rw [Checker.verdict_onList hheld hcount]
    generalize htrace : Pass.run ((c.context mission).onList mission.storageId items)
      ⟨.meters first, .meters between⟩ () = trace
    obtain ⟨ends, arithmetic⟩ := runAll_fault mission.storageId first between hheld.context.1 numeric Stage.all {}
      (by decide) (fun _ => rfl) htrace
    rw [Pass.Trace.verdict, ← every, ← ends]
    cases hfault : trace.fault with
    | none => simp
    | some fault =>
      refine ⟨by simp, ?_⟩
      rintro _ ⟨⟩
      exact arithmetic fault hfault
  · have hempty : items = [] := by
      have length := hheld.1
      exact List.length_eq_zero_iff.mp (by omega)
    subst hempty
    rw [Checker.check, if_pos (by omega)]
    exact ⟨iff_of_true ⟨_, rfl⟩ not_breaksOff_nil, by simp⟩

theorem not_breaksOff_kilometer :
    let items : List Item := [{ code := Command.waypoint.code, lat := 47.39, lon := 8.54, altitude := 40.0 },
      { code := Command.land.code, lat := 47.4, lon := 8.54 }]
    let c : Checker MemoryStore :=
      { read := MemoryStore.read
        vehicle := { airframe := .fixedWing, home := .ofNumbers 47.39 8.54 488.0 } }
    let mission := MemoryStore.handle "m" items
    c.Holds mission items (MemoryStore.insert {} "m" items) ∧ c.distance = Geodesy.distance ∧
      ∀ stage : Stage, ¬ stage.BreaksOff (c.context mission) 900.0 2000.0 items := by
  intro items c mission
  have held : c.Holds mission items (MemoryStore.insert {} "m" items) :=
    Checker.holds_memory rfl (MemoryStore.find?_insert_self {} "m" items)
  have accepts : (c.check mission ⟨.meters 900.0, .meters 2000.0⟩ (MemoryStore.insert {} "m" items)).Accepts := by
    decide +kernel
  obtain ⟨verdict, ended, -⟩ := accepts
  have ends := ends_iff_not_breaksOff c mission 900.0 2000.0 (MemoryStore.insert {} "m" items) items held rfl
  exact ⟨held, rfl, ends.1.mp ⟨verdict, ended⟩⟩

theorem pass_breaks_off :
    let verdict (vehicle : Vehicle) (limits : Limits) (items : List Item) : Except Fault Verdict :=
      (({ read := MemoryStore.read, vehicle } : Checker MemoryStore).check (MemoryStore.handle "m" items) limits
        (MemoryStore.insert {} "m" items)).verdict
    verdict {} {} [{ code := Command.doSetServo.code, params := .ofList [Double.infinity] }] =
        .error .wholeOfInfinite ∧
      verdict { home := .ofNumbers 47.39 8.54 488.0 } { first := .meters 900.0 }
        [{ code := Command.waypoint.code, lat := Double.nan, lon := 8.54 }] = .error .wholeOfUndefined ∧
      verdict { airframe := .fixedWing, home := .ofNumbers 47.39 8.54 488.0, landingAngle := some (-0.1) } {}
        [{ code := Command.waypoint.code, lat := 47.39, lon := 8.54, altitude := 40.0 },
          { code := Command.land.code, lat := 47.4, lon := 8.54 }] = .error .divisionByZero := by
  intro verdict
  exact ⟨by decide +kernel, by decide +kernel, by decide +kernel⟩

end Preflight
