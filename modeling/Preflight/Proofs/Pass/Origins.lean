import Preflight.Proofs.Pass.Stages

namespace Preflight

def Stage.finds : Stage → Finding → Bool
  | first, .noPositionLock | first, .firstTooFar .. | first, .storageFailure true => true
  | validity, .unsupportedCommand .. | validity, .actuatorIndex .. | validity, .actuatorRange ..
  | validity, .startsWithLanding false | validity, .storageFailure false => true
  | between, .tooFarApart .. | between, .gateTooClose .. | between, .storageFailure true => true
  | fence, .fenceWithoutHome _ | fence, .outsideFence _ | fence, .storageFailure false => true
  | homeAltitude, .belowHome _ | homeAltitude, .relativeWithoutHome _ | homeAltitude, .storageFailure false => true
  | takeoff, .takeoffTooLow .. | takeoff, .takeoffNotFirst _ | takeoff, .storageFailure false => true
  | landing, .severalLandStarts _ | landing, .landStartBeforeReturn _ | landing, .invalidLandStart
  | landing, .landingAngleMissing _ | landing, .startsWithLanding _ | landing, .approachRequired _
  | landing, .approachBelowLand _ | landing, .landInsideOrbit _ | landing, .unsupportedApproach _
  | landing, .glideSlopeTooSteep .. | landing, .storageFailure false => true
  | presence, .takeoffMissing | presence, .landingMissing | presence, .takeoffOrLandingMissing
  | presence, .landingToAdd | presence, .takeoffToAdd => true
  | _, _ => false

def Outcome.Finds (kind : Finding → Bool) (o : Outcome) : Prop := ∀ f ∈ o.findings, kind f = true

namespace Outcome

variable {kind : Finding → Bool} {f : Finding}

theorem finds_pass (flags : Flags) : (pass flags).Finds kind := nofun

theorem finds_fail (flags : Flags) (h : kind f = true) : (fail flags f).Finds kind := by
  intro other hother
  obtain rfl := List.mem_singleton.mp hother
  exact h

theorem finds_unreadable (flags : Flags) (reason : String) {reading : Bool} (h : kind (.storageFailure reading) = true) :
    (unreadable flags reason reading).Finds kind := finds_fail flags h

end Outcome

namespace Check

variable {σ : Type} {ctx : Context σ} {limit : Limit} {flags : Flags} {outcome : Outcome} {store after : σ}

theorem first_finds (h : (Pass.first limit ctx flags).run store = (.ok outcome, after)) :
    outcome.Finds Stage.first.finds := by
  rw [first_eq] at h
  refine settle_obeys (I := fun _ _ => True)
    (P := fun result : Option Finding => ∀ finding ∈ result, Stage.first.finds finding = true) ?_ trivial ?_ ?_ h
  · intro outcome decided
    split at decided
    · rw [whenOff_some decided]
      exact Outcome.finds_pass flags
    · obtain rfl := Option.some.inj (Except.ok.inj decided)
      exact Outcome.finds_fail flags rfl
  · intro index _ item _ store progress after _ hvisit
    rcases progress with _ | (_ | finding) | _
    · trivial
    · nofun
    · rintro finding ⟨⟩
      obtain ⟨-, distance, most, rfl⟩ := measureFirst_stopped (Prod.mk.inj hvisit).1
      rfl
    · trivial
  · rintro (_ | (_ | finding) | reason) reported
    · exact Outcome.finds_pass flags
    · exact Outcome.finds_pass flags
    · exact Outcome.finds_fail flags (reported finding rfl)
    · exact Outcome.finds_unreadable flags reason rfl

theorem validity_finds (h : (validity ctx flags).run store = (.ok outcome, after)) :
    outcome.Finds Stage.validity.finds := by
  rw [validity_eq] at h
  refine settle_obeys (I := fun _ _ => True) (P := fun finding => Stage.validity.finds finding = true) (by simp)
    trivial ?_ ?_ h
  · intro index _ item _ store progress after _ hvisit
    obtain ⟨_ | finding, hfinding, rfl⟩ := Fault.map_ok (Prod.mk.inj hvisit).1
    · trivial
    · cases invalidity_some hfinding
      all_goals rfl
  · rintro (_ | finding | reason) reported
    · exact Outcome.finds_pass flags
    · exact Outcome.finds_fail flags reported
    · exact Outcome.finds_unreadable flags reason rfl

theorem betweenDistance_finds (h : (betweenDistance limit ctx flags).run store = (.ok outcome, after)) :
    outcome.Finds Stage.between.finds := by
  rw [betweenDistance_eq] at h
  refine settle_obeys (I := fun _ _ => True) (P := fun finding => Stage.between.finds finding = true) ?_ trivial ?_ ?_ h
  · intro outcome decided
    rw [whenOff_some decided]
    exact Outcome.finds_pass flags
  · intro index _ item last store progress after _ hvisit
    rcases progress with _ | finding | _
    · trivial
    · obtain ⟨-, before, hfault⟩ := measureNeighbour_stopped (Prod.mk.inj hvisit).1
      rcases neighbourFault_some hfault with ⟨distance, most, rfl⟩ | ⟨distance, least, rfl⟩
      all_goals rfl
    · trivial
  · rintro (_ | finding | reason) reported
    · exact Outcome.finds_pass flags
    · exact Outcome.finds_fail flags reported
    · exact Outcome.finds_unreadable flags reason rfl

theorem fence_finds (h : (fence ctx flags).run store = (.ok outcome, after)) : outcome.Finds Stage.fence.finds := by
  rw [fence_eq] at h
  refine settle_obeys (I := fun _ _ => True) (P := fun finding => Stage.fence.finds finding = true) ?_ trivial ?_ ?_ h
  · intro outcome decided
    rcases whenUnfenced_cases (Except.ok.inj decided) with rfl | ⟨rfl, -⟩
    · exact Outcome.finds_fail flags rfl
    · exact Outcome.finds_pass flags
  · intro index _ item _ store progress after _ hvisit
    obtain ⟨_ | finding, hfinding, rfl⟩ := Fault.map_ok (Prod.mk.inj hvisit).1
    · trivial
    · rcases fenceBreach_some hfinding with ⟨rfl, -⟩ | ⟨rfl, -⟩
      all_goals rfl
  · rintro (_ | finding | reason) reported
    · exact Outcome.finds_pass flags
    · exact Outcome.finds_fail flags reported
    · exact Outcome.finds_unreadable flags reason rfl

theorem homeAltitude_finds (h : (homeAltitude ctx flags).run store = (.ok outcome, after)) :
    outcome.Finds Stage.homeAltitude.finds := by
  obtain ⟨progress, rfl, obeys, -⟩ := homeAltitude_scan h
  have belowHome {count : Nat} {warnings : List Finding} (hwarnings : AreBelowHome count warnings) :
      ∀ f ∈ warnings, Stage.homeAltitude.finds f = true := by
    intro f hf
    obtain ⟨index, -, rfl⟩ := hwarnings f hf
    rfl
  rcases progress with warnings | findings | ⟨reason, warnings⟩
  · exact belowHome obeys
  · obtain ⟨warnings, index, -, rfl, hwarnings⟩ := obeys
    exact List.forall_mem_append.mpr ⟨belowHome hwarnings, by simp [Stage.finds]⟩
  · obtain ⟨index, -, hwarnings⟩ := obeys
    exact List.forall_mem_append.mpr ⟨belowHome hwarnings, by simp [Outcome.unreadable, Outcome.fail, Stage.finds]⟩

theorem takeoff_finds (h : (takeoff ctx flags).run store = (.ok outcome, after)) :
    outcome.Finds Stage.takeoff.finds := by
  rw [takeoff_eq] at h
  refine settle_obeys (I := fun _ _ => True)
    (P := fun result : Bool × Finding => Stage.takeoff.finds result.2 = true) nofun trivial ?_ ?_ h
  · intro index _ item seen store progress after _ hvisit
    obtain rfl := Except.ok.inj (Prod.mk.inj hvisit).1
    unfold visitTakeoff
    split
    · trivial
    · split
      · rfl
      · trivial
  · rintro (seen | ⟨seen, finding⟩ | ⟨reason, seen⟩) reported
    · dsimp only [closeTakeoff]
      split
      · split
        · exact Outcome.finds_pass _
        · exact Outcome.finds_fail _ rfl
      · exact Outcome.finds_pass _
    · exact Outcome.finds_fail _ reported
    · exact Outcome.finds_unreadable _ reason rfl

theorem landingSequence_finds {rules : LandingRules σ}
    (steps : ∀ index item store finding after,
      (rules.step ctx index item).run store = (.ok (some finding), after) → Stage.landing.finds finding = true)
    (h : (landingSequence rules ctx flags).run store = (.ok outcome, after)) :
    outcome.Finds Stage.landing.finds := by
  rw [landingSequence_eq] at h
  refine settle_obeys (I := fun _ _ => True)
    (P := fun result : Bool × Finding => Stage.landing.finds result.2 = true) nofun trivial ?_ ?_ h
  · intro index _ item seen store progress after _ hvisit
    cases visitLanding_ok hvisit with
    | again landing => rfl
    | returns landing => rfl
    | @lands hlands answer _ step =>
      rcases answer with reason | _ | finding
      · trivial
      · trivial
      · exact steps index item store finding after (Reads.attempt_ok step)
    | passes => trivial
  · rintro (seen | ⟨seen, finding⟩ | ⟨reason, seen⟩) reported
    · dsimp only [closeLanding]
      split
      · exact Outcome.finds_fail _ rfl
      · exact Outcome.finds_pass _
    · exact Outcome.finds_fail _ reported
    · exact Outcome.finds_unreadable _ reason rfl

theorem refusesApproach_finds {hasPosition : Item → Bool} {index : Nat} {approach : Item} {finding : Finding}
    (h : RefusesApproach hasPosition index approach finding) : Stage.landing.finds finding = true := by
  cases h <;> rfl

theorem fixedWingStep_finds {index : Nat} {item : Item} {finding : Finding}
    (h : (fixedWingStep ctx index item).run store = (.ok (some finding), after)) :
    Stage.landing.finds finding = true := by
  cases fixedWingStep_some h with
  | angle => rfl
  | first => rfl
  | approach _ refuses => exact refusesApproach_finds refuses

theorem vtolStep_finds {index : Nat} (item : Item) {finding : Finding}
    (h : (vtolStep ctx index item).run store = (.ok (some finding), after)) : Stage.landing.finds finding = true := by
  obtain ⟨-, rfl⟩ := vtolStep_some h
  rfl

theorem landing_finds {airframe : Airframe} (h : (landing airframe ctx flags).run store = (.ok outcome, after)) :
    outcome.Finds Stage.landing.finds := by
  cases airframe with
  | rotaryWing =>
    change (anyLanding ctx flags).run store = _ at h
    rw [anyLanding_eq] at h
    rcases settle_ok h with ⟨decided, -⟩ | ⟨-, progress, -, rfl⟩
    · exact nomatch decided
    · cases progress <;> exact nofun
  | fixedWing => exact landingSequence_finds (fun _ _ _ _ _ => fixedWingStep_finds) h
  | vtol => exact landingSequence_finds (fun _ item _ _ _ => vtolStep_finds item) h

theorem missing_finds {policy : Presence} {finding : Finding} (h : missing policy flags = some finding) :
    Stage.presence.finds finding = true := by
  unfold missing at h
  grind [Stage.finds]

theorem presence_finds (h : (presence ctx flags).run store = (.ok outcome, after)) :
    outcome.Finds Stage.presence.finds := by
  rw [presence_run] at h
  obtain rfl := Except.ok.inj (Prod.mk.inj h).1
  split
  next finding hmissing =>
    obtain ⟨policy, -, hfinding⟩ := Option.bind_eq_some_iff.mp hmissing
    exact Outcome.finds_fail flags (missing_finds hfinding)
  next => exact Outcome.finds_pass flags

end Check

theorem Context.check_finds {σ : Type} {ctx : Context σ} {limits : Limits} {stage : Stage} {flags : Flags}
    {outcome : Outcome} {store after : σ} (h : (ctx.check limits stage flags).run store = (.ok outcome, after)) :
    outcome.Finds stage.finds := by
  cases stage with
  | first => exact Check.first_finds h
  | validity => exact Check.validity_finds h
  | between => exact Check.betweenDistance_finds h
  | fence => exact Check.fence_finds h
  | homeAltitude => exact Check.homeAltitude_finds h
  | takeoff => exact Check.takeoff_finds h
  | landing => exact Check.landing_finds h
  | presence => exact Check.presence_finds h

end Preflight
