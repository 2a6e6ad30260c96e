import Preflight.Proofs.Pass.Origins
import Preflight.Proofs.Pass.Stored

namespace Preflight

variable {σ α β : Type} {ctx : Context σ} {id : String} {items : List Item}

namespace Finding

def Suits (ctx : Context σ) (item : Item) : Finding → Prop
  | unsupportedCommand _ code => item.code = code ∧ item.capability.supported = false
  | actuatorIndex _ actuator _ => item.carries .doSetServo = true ∧ Check.wholeOf (Check.servo item) = .ok actuator
  | actuatorRange _ value _ => item.carries .doSetServo = true ∧ Check.wholeOf (Check.servoValue item) = .ok value
  | startsWithLanding _ => Check.isVtolLanding item = true
  | fenceWithoutHome _ | relativeWithoutHome _ => item.relative = true
  | outsideFence _ => ctx.fence.check (item.toAmsl ctx.vehicle.home.altitude) = .ok false
  | belowHome _ => item.altitudeAmsl ctx.vehicle.home.altitude < ctx.vehicle.home.altitude
  | firstTooFar .. | tooFarApart .. | gateTooClose .. | approachBelowLand _ => ctx.hasPosition item = true
  | takeoffTooLow _ least => Check.isTakeoff item = true ∧ Check.isTooLow ctx.vehicle item = true ∧
      least = Check.leastHeight ctx.vehicle item
  | takeoffNotFirst _ => Check.isTakeoff item = true
  | severalLandStarts _ => item.carries .doLandStart = true
  | landStartBeforeReturn _ => item.carries .returnToLaunch = true
  | unsupportedApproach _ => item.carries .loiterToAlt = false ∧ item.carries .waypoint = false
  | landingAngleMissing _ | approachRequired _ | landInsideOrbit _ | glideSlopeTooSteep .. => Check.isLand item = true
  | _ => True

def IsAbout (ctx : Context σ) (items : List Item) (f : Finding) : Prop :=
  ∀ n, f.item = some n → ∃ (index : Nat) (item : Item),
    n = number index ∧ items[index]? = some item ∧ f.Suits ctx item

theorem isAbout_of_number {f : Finding} {index : Nat} {item : Item} (hitem : items[index]? = some item)
    (cited : f.item = some (number index)) (suits : f.Suits ctx item) : f.IsAbout ctx items := by
  intro n hn
  exact ⟨index, item, (Option.some.inj (cited.symm.trans hn)).symm, hitem, suits⟩

theorem isAbout_of_none {f : Finding} (h : f.item = none) : f.IsAbout ctx items := by
  intro n hn
  cases h.symm.trans hn

end Finding

def Outcome.IsAbout (ctx : Context σ) (items : List Item) (o : Outcome) : Prop :=
  ∀ f ∈ o.findings, f.IsAbout ctx items

namespace Outcome

theorem isAbout_pass (flags : Flags) : (pass flags).IsAbout ctx items := nofun

theorem isAbout_fail (flags : Flags) {f : Finding} (h : f.IsAbout ctx items) : (fail flags f).IsAbout ctx items := by
  intro other hother
  obtain rfl := List.mem_singleton.mp hother
  exact h

theorem isAbout_unreadable (flags : Flags) (reason : String) (reading : Bool) :
    (unreadable flags reason reading).IsAbout ctx items := isAbout_fail flags (Finding.isAbout_of_none rfl)

end Outcome

theorem read_onList {index : Nat} {item : Item} {store after : Unit}
    (h : ((ctx.onList id items).read index).run store = (.ok item, after)) : items[index]? = some item :=
  itemAt_eq_ok.mp (Prod.mk.inj h).1

theorem settle_onList_obeys {before : Except Fault (Option Outcome)} {start : α}
    {visit : Nat → Item → α → Reads Unit (Progress α β)} {close : Progress α β → Outcome} {I : Nat → α → Prop}
    {P : β → Prop} {Good : Outcome → Prop} (hbefore : ∀ outcome, before = .ok (some outcome) → Good outcome)
    (hstart : I 0 start)
    (visits : ∀ (index : Nat) item seen store progress after, items[index]? = some item → I index seen →
      (visit index item seen).run store = (.ok progress, after) → progress.Keeps I P index)
    (closes : ∀ progress : Progress α β, progress.Obeys I P ctx.count → Good (close progress))
    {store after : Unit} {outcome : Outcome}
    (h : ((ctx.onList id items).settle before start visit close).run store = (.ok outcome, after)) : Good outcome := by
  rcases settle_ok h with ⟨decided, -⟩ | ⟨-, progress, hscan, rfl⟩
  · exact hbefore outcome decided
  · refine closes progress (scan_keeps (fun index _ item seen store mid progress after hseen hread hvisit => ?_)
      hstart hscan)
    exact visits index item seen mid progress after (read_onList hread) hseen hvisit

namespace Check

variable {flags : Flags} {outcome : Outcome} {limit : Limit} {index : Nat} {item : Item} {finding : Finding}
  {store after : Unit}

theorem measureFirst_isAbout (hitem : items[index]? = some item)
    (h : measureFirst ctx limit index item = .ok (.stopped (some finding))) : finding.IsAbout ctx items := by
  obtain ⟨located, distance, most, rfl⟩ := measureFirst_stopped h
  exact Finding.isAbout_of_number hitem rfl located

theorem first_isAbout (h : (Pass.first limit (ctx.onList id items) flags).run store = (.ok outcome, after)) :
    outcome.IsAbout ctx items := by
  rw [first_eq] at h
  refine settle_onList_obeys (I := fun _ _ => True)
    (P := fun result : Option Finding => ∀ finding ∈ result, finding.IsAbout ctx items) ?_ trivial ?_ ?_ h
  · intro outcome decided
    split at decided
    · rw [whenOff_some decided]
      exact Outcome.isAbout_pass flags
    · obtain rfl := Option.some.inj (Except.ok.inj decided)
      exact Outcome.isAbout_fail flags (Finding.isAbout_of_none rfl)
  · intro index item _ store progress after hitem _ hvisit
    rcases progress with _ | (_ | finding) | _
    · trivial
    · nofun
    · rintro finding ⟨⟩
      exact measureFirst_isAbout hitem (Prod.mk.inj hvisit).1
    · trivial
  · rintro (_ | (_ | finding) | reason) reported
    · exact Outcome.isAbout_pass flags
    · exact Outcome.isAbout_pass flags
    · exact Outcome.isAbout_fail flags (reported finding rfl)
    · exact Outcome.isAbout_unreadable flags reason true

theorem isAbout_landing (hitem : items[index]? = some item) (h : index = 0)
    (lands : isVtolLanding item = true) (waypoint : Bool) :
    (Finding.startsWithLanding waypoint).IsAbout ctx items := by
  subst h
  exact Finding.isAbout_of_number hitem rfl lands

theorem invalidity_isAbout (hitem : items[index]? = some item)
    (h : invalidity ctx.vehicle index item = .ok (some finding)) : finding.IsAbout ctx items := by
  cases invalidity_some h with
  | command unsupported => exact Finding.isAbout_of_number hitem rfl ⟨rfl, unsupported⟩
  | servo sets shown => exact Finding.isAbout_of_number hitem rfl ⟨sets, shown⟩
  | servoValue sets shown => exact Finding.isAbout_of_number hitem rfl ⟨sets, shown⟩
  | landing first lands => exact isAbout_landing hitem first (by simp [isVtolLanding, lands]) false

theorem validity_isAbout (h : (validity (ctx.onList id items) flags).run store = (.ok outcome, after)) :
    outcome.IsAbout ctx items := by
  rw [validity_eq] at h
  refine settle_onList_obeys (I := fun _ _ => True) (P := fun finding => finding.IsAbout ctx items) (by simp)
    trivial ?_ ?_ h
  · intro index item _ store progress after hitem _ hvisit
    obtain ⟨_ | finding, hfinding, rfl⟩ := Fault.map_ok (Prod.mk.inj hvisit).1
    · trivial
    · exact invalidity_isAbout hitem hfinding
  · rintro (_ | finding | reason) reported
    · exact Outcome.isAbout_pass flags
    · exact Outcome.isAbout_fail flags reported
    · exact Outcome.isAbout_unreadable flags reason false

theorem measureNeighbour_isAbout {last : Option Item} (hitem : items[index]? = some item)
    (h : measureNeighbour ctx limit index item last = .ok (.stopped finding)) : finding.IsAbout ctx items := by
  obtain ⟨located, before, hfault⟩ := measureNeighbour_stopped h
  rcases neighbourFault_some hfault with ⟨distance, most, rfl⟩ | ⟨distance, least, rfl⟩
  · exact Finding.isAbout_of_number hitem rfl located
  · exact Finding.isAbout_of_number hitem rfl located

theorem betweenDistance_isAbout
    (h : (betweenDistance limit (ctx.onList id items) flags).run store = (.ok outcome, after)) :
    outcome.IsAbout ctx items := by
  rw [betweenDistance_eq] at h
  refine settle_onList_obeys (I := fun _ _ => True) (P := fun finding => finding.IsAbout ctx items) ?_ trivial ?_ ?_ h
  · intro outcome decided
    rw [whenOff_some decided]
    exact Outcome.isAbout_pass flags
  · intro index item last store progress after hitem _ hvisit
    rcases progress with _ | finding | _
    · trivial
    · exact measureNeighbour_isAbout hitem (Prod.mk.inj hvisit).1
    · trivial
  · rintro (_ | finding | reason) reported
    · exact Outcome.isAbout_pass flags
    · exact Outcome.isAbout_fail flags reported
    · exact Outcome.isAbout_unreadable flags reason true

theorem fenceBreach_isAbout (hitem : items[index]? = some item)
    (h : fenceBreach ctx index item = .ok (some finding)) : finding.IsAbout ctx items := by
  rcases fenceBreach_some h with ⟨rfl, relative⟩ | ⟨rfl, outside⟩
  · exact Finding.isAbout_of_number hitem rfl relative
  · exact Finding.isAbout_of_number hitem rfl outside

theorem fence_isAbout (h : (fence (ctx.onList id items) flags).run store = (.ok outcome, after)) :
    outcome.IsAbout ctx items := by
  rw [fence_eq] at h
  refine settle_onList_obeys (I := fun _ _ => True) (P := fun finding => finding.IsAbout ctx items) ?_ trivial ?_ ?_ h
  · intro outcome decided
    rcases whenUnfenced_cases (Except.ok.inj decided) with rfl | ⟨rfl, -⟩
    · exact Outcome.isAbout_fail flags (Finding.isAbout_of_none rfl)
    · exact Outcome.isAbout_pass flags
  · intro index item _ store progress after hitem _ hvisit
    obtain ⟨_ | finding, hfinding, rfl⟩ := Fault.map_ok (Prod.mk.inj hvisit).1
    · trivial
    · exact fenceBreach_isAbout hitem hfinding
  · rintro (_ | finding | reason) reported
    · exact Outcome.isAbout_pass flags
    · exact Outcome.isAbout_fail flags reported
    · exact Outcome.isAbout_unreadable flags reason false

def WarnsAbout (ctx : Context σ) (items : List Item) (warnings : List Finding) : Prop :=
  ∀ f ∈ warnings, f.IsAbout ctx items

theorem warnsAbout_concat {warnings : List Finding} (h : WarnsAbout ctx items warnings)
    (hfinding : finding.IsAbout ctx items) : WarnsAbout ctx items (warnings ++ [finding]) :=
  List.forall_mem_append.mpr ⟨h, by simpa using hfinding⟩

theorem compareWithHome_isAbout {warnings : List Finding} (hitem : items[index]? = some item)
    (h : WarnsAbout ctx items warnings) : (compareWithHome ctx index item warnings).Keeps
      (fun _ warnings => WarnsAbout ctx items warnings) (fun findings => WarnsAbout ctx items findings) index := by
  unfold compareWithHome
  dsimp only
  split
  next homeless =>
    have relative : item.relative = true := (Bool.and_eq_true_iff.mp (Bool.and_eq_true_iff.mp homeless).1).1
    exact warnsAbout_concat h (Finding.isAbout_of_number hitem rfl relative)
  next =>
    split
    next below =>
      have below := of_decide_eq_true (Bool.and_eq_true_iff.mp (Bool.and_eq_true_iff.mp below).1).2
      exact warnsAbout_concat h (Finding.isAbout_of_number hitem rfl below)
    next => exact h

theorem homeAltitude_isAbout (h : (homeAltitude (ctx.onList id items) flags).run store = (.ok outcome, after)) :
    outcome.IsAbout ctx items := by
  rw [homeAltitude_eq] at h
  refine settle_onList_obeys (I := fun _ warnings => WarnsAbout ctx items warnings)
    (P := fun findings => WarnsAbout ctx items findings) (by simp) (by simp [WarnsAbout]) ?_ ?_ h
  · intro index item warnings store progress after hitem hwarnings hvisit
    obtain rfl := Except.ok.inj (Prod.mk.inj hvisit).1
    exact compareWithHome_isAbout hitem hwarnings
  · rintro (warnings | findings | ⟨reason, warnings⟩) obeys
    · exact obeys
    · exact obeys
    · obtain ⟨_, -, hwarnings⟩ := obeys
      exact warnsAbout_concat hwarnings (Finding.isAbout_of_none rfl)

-- A takeoff that is not the first item is cited when all items have been seen, so the scan has to remember what it is.
def TakeoffScan.Finds (items : List Item) (seen : TakeoffScan) : Prop :=
  ∀ index ∈ seen.first, ∃ item, items[index]? = some item ∧ isTakeoff item = true

theorem visitTakeoff_isAbout {seen : TakeoffScan} (hitem : items[index]? = some item) (h : seen.Finds items) :
    (visitTakeoff ctx.vehicle index item seen).Keeps (fun _ seen => seen.Finds items)
      (fun result : Bool × Finding => result.2.IsAbout ctx items) index := by
  unfold visitTakeoff
  split
  · exact h
  next takesOff =>
    have takesOff : isTakeoff item = true := by simpa using takesOff
    split
    next low => exact Finding.isAbout_of_number hitem rfl ⟨takesOff, low, rfl⟩
    next =>
      rintro first ⟨⟩
      cases hseen : seen.first with
      | none => exact ⟨item, hitem, takesOff⟩
      | some found => exact h found hseen

theorem takeoff_isAbout (h : (takeoff (ctx.onList id items) flags).run store = (.ok outcome, after)) :
    outcome.IsAbout ctx items := by
  rw [takeoff_eq] at h
  refine settle_onList_obeys (I := fun _ seen => TakeoffScan.Finds items seen)
    (P := fun result : Bool × Finding => result.2.IsAbout ctx items) nofun (by simp [TakeoffScan.Finds]) ?_ ?_ h
  · intro index item seen store progress after hitem hseen hvisit
    obtain rfl := Except.ok.inj (Prod.mk.inj hvisit).1
    exact visitTakeoff_isAbout hitem hseen
  · rintro (seen | ⟨seen, finding⟩ | ⟨reason, seen⟩) obeys
    · dsimp only [closeTakeoff]
      split
      next first hfirst =>
        obtain ⟨item, hitem, takesOff⟩ := obeys first hfirst
        split
        · exact Outcome.isAbout_pass _
        · exact Outcome.isAbout_fail _ (Finding.isAbout_of_number hitem rfl takesOff)
      next => exact Outcome.isAbout_pass _
    · exact Outcome.isAbout_fail _ obeys
    · exact Outcome.isAbout_unreadable _ reason false

theorem refusesApproach_isAbout {approach : Item} (hitem : items[index]? = some item)
    (happroach : items[index - 1]? = some approach) (lands : isLand item = true)
    (h : RefusesApproach ctx.hasPosition index approach finding) : finding.IsAbout ctx items := by
  cases h with
  | lost => exact Finding.isAbout_of_number hitem rfl lands
  | below located => exact Finding.isAbout_of_number happroach rfl located
  | inside => exact Finding.isAbout_of_number hitem rfl lands
  | unsupported orbit straight => exact Finding.isAbout_of_number happroach rfl ⟨orbit, straight⟩
  | steep => exact Finding.isAbout_of_number hitem rfl lands

theorem fixedWingStep_isAbout (hitem : items[index]? = some item) (lands : isLand item = true)
    (h : (fixedWingStep (ctx.onList id items) index item).run store = (.ok (some finding), after)) :
    finding.IsAbout ctx items := by
  cases fixedWingStep_some h with
  | angle => exact Finding.isAbout_of_number hitem rfl lands
  | first first => exact isAbout_landing hitem first (Bool.or_eq_true_iff.mpr (.inl lands)) false
  | approach read refuses => exact refusesApproach_isAbout hitem (read_onList read) lands refuses

theorem vtolStep_isAbout (hitem : items[index]? = some item) (lands : isVtolLanding item = true)
    (h : (vtolStep (ctx.onList id items) index item).run store = (.ok (some finding), after)) :
    finding.IsAbout ctx items := by
  obtain ⟨first, rfl⟩ := vtolStep_some h
  exact isAbout_landing hitem first lands true

theorem visitLanding_isAbout {rules : LandingRules Unit} {seen : LandingScan}
    {progress : Progress LandingScan (Bool × Finding)}
    (steps : ∀ finding store after, rules.lands item = true →
      (rules.step (ctx.onList id items) index item).run store = (.ok (some finding), after) →
        finding.IsAbout ctx items)
    (hitem : items[index]? = some item)
    (h : (visitLanding rules (ctx.onList id items) index item seen).run store = (.ok progress, after)) :
    progress.Keeps (fun _ _ => True) (fun result => result.2.IsAbout ctx items) index := by
  rw [visitLanding_eq] at h
  split at h
  next again =>
    rcases h with ⟨rfl, rfl⟩
    exact Finding.isAbout_of_number hitem rfl (Bool.and_eq_true_iff.mp again).1
  next =>
    split at h
    next lands =>
      obtain ⟨answer, mid, step, h⟩ := Reads.bind_ok h
      rcases h with ⟨rfl, rfl⟩
      rcases answer with reason | _ | finding
      · trivial
      · trivial
      · exact steps finding store after lands (Reads.attempt_ok step)
    next =>
      split at h
      next returns =>
        rcases h with ⟨rfl, rfl⟩
        have returns := (Bool.and_eq_true_iff.mp (Bool.and_eq_true_iff.mp returns).1).1
        exact Finding.isAbout_of_number hitem rfl returns
      next =>
        rcases h with ⟨rfl, rfl⟩
        trivial

theorem landingSequence_isAbout {rules : LandingRules Unit}
    (steps : ∀ index item finding store after, items[index]? = some item → rules.lands item = true →
      (rules.step (ctx.onList id items) index item).run store = (.ok (some finding), after) →
        finding.IsAbout ctx items)
    (h : (landingSequence rules (ctx.onList id items) flags).run store = (.ok outcome, after)) :
    outcome.IsAbout ctx items := by
  rw [landingSequence_eq] at h
  refine settle_onList_obeys (I := fun _ _ => True) (P := fun result : Bool × Finding => result.2.IsAbout ctx items)
    nofun trivial ?_ ?_ h
  · intro index item seen store progress after hitem _ hvisit
    exact visitLanding_isAbout (fun finding store after => steps index item finding store after hitem) hitem hvisit
  · rintro (seen | ⟨seen, finding⟩ | ⟨reason, seen⟩) reported
    · dsimp only [closeLanding]
      split
      · exact Outcome.isAbout_fail _ (Finding.isAbout_of_none rfl)
      · exact Outcome.isAbout_pass _
    · exact Outcome.isAbout_fail _ reported
    · exact Outcome.isAbout_unreadable _ reason false

theorem landing_isAbout {airframe : Airframe}
    (h : (landing airframe (ctx.onList id items) flags).run store = (.ok outcome, after)) :
    outcome.IsAbout ctx items := by
  cases airframe with
  | rotaryWing =>
    change (anyLanding (ctx.onList id items) flags).run store = _ at h
    rw [anyLanding_eq] at h
    rcases settle_ok h with ⟨decided, -⟩ | ⟨-, progress, -, rfl⟩
    · exact nomatch decided
    · cases progress <;> exact nofun
  | fixedWing => exact landingSequence_isAbout (fun _ _ _ _ _ => fixedWingStep_isAbout) h
  | vtol => exact landingSequence_isAbout (fun _ _ _ _ _ => vtolStep_isAbout) h

theorem presence_isAbout (h : (presence (ctx.onList id items) flags).run store = (.ok outcome, after)) :
    outcome.IsAbout ctx items := by
  intro f hf
  have found := presence_finds h f hf
  have uncited : f.item = none := by cases f <;> simp_all [Stage.finds, Finding.item]
  exact Finding.isAbout_of_none uncited

end Check

theorem Context.check_isAbout {limits : Limits} {stage : Stage} {flags : Flags} {outcome : Outcome}
    {store after : Unit} (h : ((ctx.onList id items).check limits stage flags).run store = (.ok outcome, after)) :
    outcome.IsAbout ctx items := by
  cases stage with
  | first => exact Check.first_isAbout h
  | validity => exact Check.validity_isAbout h
  | between => exact Check.betweenDistance_isAbout h
  | fence => exact Check.fence_isAbout h
  | homeAltitude => exact Check.homeAltitude_isAbout h
  | takeoff => exact Check.takeoff_isAbout h
  | landing => exact Check.landing_isAbout h
  | presence => exact Check.presence_isAbout h

theorem Pass.Ends.ran {limits : Limits} {stages : List Stage} {flags : Flags} {store : σ} {outcomes : List Outcome}
    (h : Pass.Ends ctx limits stages flags store outcomes) {outcome : Outcome} (houtcome : outcome ∈ outcomes) :
    ∃ stage flags before after, (ctx.check limits stage flags).run before = (.ok outcome, after) := by
  induction stages generalizing flags store outcomes with
  | nil =>
    obtain rfl : outcomes = [] := h
    cases houtcome
  | cons stage rest ih =>
    obtain ⟨first, after, others, ran, later, rfl⟩ := h
    rcases List.mem_cons.mp houtcome with rfl | houtcome
    · exact ⟨stage, flags, store, after, ran⟩
    · exact ih later houtcome

theorem Checker.verdict_cites {c : Checker σ} {mission : Mission} {limits : Limits} {store : σ} {verdict : Verdict}
    (hheld : c.Holds mission items store) (hverdict : (c.check mission limits store).verdict = .ok verdict) :
    ∀ d ∈ verdict.diagnostics, ∃ f : Finding, d = f.diagnostic ∧ f.IsAbout (c.context mission) items := by
  intro d hd
  by_cases hcount : 0 < mission.count
  · rw [verdict_onList hheld hcount] at hverdict
    obtain ⟨outcomes, ends, rfl⟩ := Pass.ends_of_verdict hverdict
    obtain ⟨f, hf, rfl⟩ := List.mem_map.mp hd
    obtain ⟨outcome, houtcome, hf⟩ := List.mem_flatMap.mp hf
    obtain ⟨stage, flags, before, after, ran⟩ := ends.ran houtcome
    exact ⟨f, rfl, Context.check_isAbout ran f hf⟩
  · rw [check, if_pos (by omega)] at hverdict
    obtain rfl := Except.ok.inj hverdict
    cases hd

end Preflight
