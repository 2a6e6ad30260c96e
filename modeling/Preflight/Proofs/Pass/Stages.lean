import Preflight.Proofs.Check.Distance
import Preflight.Proofs.Check.Fence
import Preflight.Proofs.Check.HomeAltitude
import Preflight.Proofs.Check.Landing
import Preflight.Proofs.Check.Presence
import Preflight.Proofs.Check.Takeoff
import Preflight.Proofs.Check.Validity
import Preflight.Proofs.Pass.Runs

namespace Preflight

namespace Context

variable {σ τ : Type} {ctx : Context σ} {limits : Limits} {stage : Stage} {flags : Flags} {outcome : Outcome}

theorem check_plain (hstage : stage ≠ .homeAltitude) {store after : σ}
    (h : (ctx.check limits stage flags).run store = (.ok outcome, after)) : outcome.Plain ctx.count := by
  cases stage with
  | first => exact Check.first_plain h
  | validity => exact Check.validity_plain h
  | between => exact Check.betweenDistance_plain h
  | fence => exact Check.fence_plain h
  | homeAltitude => exact absurd rfl hstage
  | takeoff => exact Check.takeoff_plain h
  | landing => exact Check.landing_plain h
  | presence => exact Check.presence_plain h

theorem check_reports {store after : σ} (h : (ctx.check limits stage flags).run store = (.ok outcome, after)) :
    ∃ warnings rejection, outcome.Reports ctx.count warnings rejection ∧ (warnings = [] ∨ stage = .homeAltitude) := by
  by_cases hstage : stage = .homeAltitude
  · subst hstage
    obtain ⟨warnings, rejection, reports⟩ := Check.homeAltitude_reports h
    exact ⟨warnings, rejection, reports, .inr rfl⟩
  · obtain ⟨rejection, reports, -⟩ := check_plain hstage h
    exact ⟨[], rejection, reports, .inl rfl⟩

theorem check_agree {R : σ → τ → Prop} {read : Nat → Reads τ Item}
    (reads : ∀ index < ctx.count, Reads.Agree R (ctx.read index) (read index)) (limits : Limits) (stage : Stage)
    (flags : Flags) : Reads.Agree R (ctx.check limits stage flags) ((ctx.withRead read).check limits stage flags) := by
  cases stage with
  | first => exact Check.first_agree reads
  | validity => exact Check.validity_agree reads
  | between => exact Check.betweenDistance_agree reads
  | fence => exact Check.fence_agree reads
  | homeAltitude => exact Check.homeAltitude_agree reads
  | takeoff => exact Check.takeoff_agree reads
  | landing => exact Check.landing_agree reads ctx.vehicle.airframe
  | presence => exact Check.presence_agree

theorem check_catches (ctx : Context σ) (limits : Limits) (stage : Stage) (flags : Flags) :
    (ctx.check limits stage flags).Catches := by
  cases stage with
  | first => exact Check.first_catches
  | validity => exact Check.validity_catches
  | between => exact Check.betweenDistance_catches
  | fence => exact Check.fence_catches
  | homeAltitude => exact Check.homeAltitude_catches
  | takeoff => exact Check.takeoff_catches
  | landing => exact Check.landing_catches ctx.vehicle.airframe
  | presence => exact Check.presence_catches

theorem check_unread (hstage : ¬ (stage = .landing ∧ ctx.vehicle.airframe = .rotaryWing)) {store after : σ × Nat}
    {answer : Except Fault Outcome} (h : (ctx.counted.check limits stage flags).run store = (answer, after))
    (hfailed : store.2 < after.2) : ∃ o, answer = .ok o ∧ o.Unread := by
  cases stage with
  | first => exact Check.first_unread h hfailed
  | validity => exact Check.validity_unread h hfailed
  | between => exact Check.betweenDistance_unread h hfailed
  | fence => exact Check.fence_unread h hfailed
  | homeAltitude => exact Check.homeAltitude_unread h hfailed
  | takeoff => exact Check.takeoff_unread h hfailed
  | landing => exact Check.landing_unread (fun rotary => hstage ⟨rfl, rotary⟩) h hfailed
  | presence =>
    obtain rfl : store = after := (Prod.mk.inj ((Check.presence_run ctx.counted flags store).symm.trans h)).2
    exact absurd hfailed (Nat.lt_irrefl _)

theorem check_flags (hstage : stage ≠ .landing) {store after : σ}
    (h : (ctx.check limits stage flags).run store = (.ok outcome, after)) : outcome.flags.landing = flags.landing := by
  cases stage with
  | first => exact congrArg Flags.landing (Check.first_flags h)
  | validity => exact congrArg Flags.landing (Check.validity_flags h)
  | between => exact congrArg Flags.landing (Check.betweenDistance_flags h)
  | fence => exact congrArg Flags.landing (Check.fence_flags h)
  | homeAltitude => exact congrArg Flags.landing (Check.homeAltitude_flags h)
  | takeoff => exact Check.takeoff_flags h
  | landing => exact absurd rfl hstage
  | presence => exact congrArg Flags.landing (Check.presence_flags h)

theorem unrecorded_of_check {rest : List Stage} (hnodup : (stage :: rest).Nodup)
    (hlanding : .landing ∈ stage :: rest → flags.landing = false) {store after : σ}
    (h : (ctx.check limits stage flags).run store = (.ok outcome, after)) :
    .landing ∈ rest → outcome.flags.landing = false := by
  intro later
  have other : stage ≠ .landing := fun hstage => (List.nodup_cons.mp hnodup).1 (hstage ▸ later)
  rw [check_flags other h]
  exact hlanding (List.mem_cons_of_mem _ later)

theorem check_lenient (hairframe : ctx.vehicle.airframe = .rotaryWing) {store after : σ × Nat}
    {answer : Except Fault Outcome} (h : (ctx.counted.check limits .landing flags).run store = (answer, after))
    (hfailed : store.2 < after.2) :
    ∃ o, answer = .ok o ∧ o.passed = true ∧ o.findings = [] ∧ o.flags = { flags with landing := false } := by
  have rotary : ctx.counted.check limits .landing flags = Check.anyLanding ctx.counted flags := by
    change Check.landing ctx.vehicle.airframe ctx.counted flags = _
    rw [hairframe]
    rfl
  rw [rotary] at h
  exact Check.anyLanding_unread h hfailed

theorem check_warning {store after : σ × Nat}
    (h : (ctx.counted.check limits stage flags).run store = (.ok outcome, after)) :
    outcome.warning = true ↔
      outcome.findings.any Finding.isCaution = true ∨ stage = .homeAltitude ∧ store.2 < after.2 := by
  by_cases hstage : stage = .homeAltitude
  · subst hstage
    simpa using Check.homeAltitude_warning h
  · obtain ⟨rejection, reports, warning⟩ := check_plain hstage h
    rw [warning, reports.findings]
    cases rejection <;> simp [hstage]

end Context

variable {σ : Type} {ctx : Context σ} {limits : Limits}

def Run.failures (ctx : Context σ) (limits : Limits) (r : Run σ) : Nat :=
  ((ctx.counted.check limits r.stage r.flags).run (r.before, 0)).2.2

theorem Pass.counted_of_mem_runs {store : σ} {r : Run σ} (h : r ∈ Pass.runs ctx limits store) :
    (ctx.counted.check limits r.stage r.flags).run (r.before, 0) = (r.answer, r.after, r.failures ctx limits) := by
  have ran := run_of_mem_runsFrom h
  obtain ⟨answer, rest⟩ := Context.check_agree (fun index _ => Reads.agree_counted (ctx.read index)) limits r.stage
    r.flags r.before (r.before, 0) rfl
  rw [ran] at answer rest
  exact Prod.ext answer.symm (Prod.ext rest rfl)

end Preflight
