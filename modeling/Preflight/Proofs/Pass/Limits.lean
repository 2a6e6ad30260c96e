import Preflight.Proofs.Check.Limits
import Preflight.Proofs.Pass.Stored

namespace Preflight

variable {σ : Type} {ctx : Context σ} {tight loose : Limits} {items : List Item} {stage : Stage} {flags : Flags}
  {outcome : Outcome}

structure Limits.LoosensTo (tight loose : Limits) : Prop where
  first : tight.first.LoosensTo loose.first
  between : tight.between.LoosensTo loose.between

def Stage.measures : Stage → Bool
  | first | between => true
  | _ => false

theorem Context.check_unmeasured (h : stage.measures = false) (ctx : Context σ) (tight loose : Limits) (flags : Flags) :
    ctx.check tight stage flags = ctx.check loose stage flags := by
  cases stage with
  | first | between => exact nomatch h
  | _ => rfl

theorem Context.flags_of_measures (h : stage.measures = true) {limits : Limits} {store after : σ}
    (hrun : (ctx.check limits stage flags).run store = (.ok outcome, after)) : outcome.flags = flags := by
  cases stage with
  | first => exact Check.first_flags hrun
  | between => exact Check.betweenDistance_flags hrun
  | _ => exact nomatch h

structure Run.Loosened (r r' : Run σ) : Prop where
  stage : r'.stage = r.stage
  distances : r.stage = .first ∨ r.stage = .between → r.passed = true → r'.passed = true
  others : r.stage ≠ .first → r.stage ≠ .between → r'.passed = r.passed ∧ r'.diagnostics = r.diagnostics

theorem Run.loosened_of_outcomes {outcome' : Outcome} {before after before' after' : σ} {flags' : Flags}
    (passes : outcome.passed = true → outcome'.passed = true) (same : stage.measures = false → outcome' = outcome) :
    Run.Loosened ⟨stage, flags, before, .ok outcome, after⟩ ⟨stage, flags', before', .ok outcome', after'⟩ where
  stage := rfl
  distances := fun _ => passes
  others := by
    intro hfirst hbetween
    have unmeasured : stage.measures = false := by
      cases stage with
      | first => exact absurd rfl hfirst
      | between => exact absurd rfl hbetween
      | _ => rfl
    rw [same unmeasured]
    exact ⟨rfl, rfl⟩

section

variable {id : String} (hcount : ctx.count = items.length) (hlimits : tight.LoosensTo loose)

include hcount hlimits

theorem Context.check_loosened (h : ((ctx.onList id items).check tight stage flags).run () = (.ok outcome, ()))
    (hpassed : outcome.passed = true) :
    ((ctx.onList id items).check loose stage flags).run () = (.ok outcome, ()) := by
  cases stage with
  | first => exact Check.first_loosened hcount hlimits.first h hpassed
  | between => exact Check.betweenDistance_loosened hcount hlimits.between h hpassed
  | _ => rwa [check_unmeasured rfl _ tight loose] at h

theorem Pass.runAll_loosened {stages : List Stage} {flags : Flags}
    (h : Clears (ctx.onList id items) tight stages flags ()) :
    runAll (ctx.onList id items) (stages.map (Stage.check ctx.vehicle.airframe loose)) flags () =
      runAll (ctx.onList id items) (stages.map (Stage.check ctx.vehicle.airframe tight)) flags () := by
  induction stages generalizing flags with
  | nil => rw [List.map_nil, List.map_nil]
  | cons stage rest ih =>
    obtain ⟨outcome, ⟨⟩, ran, passed, cleared⟩ := h
    have loosened : (stage.check ctx.vehicle.airframe loose (ctx.onList id items) flags).run () = (.ok outcome, ()) :=
      Context.check_loosened hcount hlimits ran passed
    change (stage.check ctx.vehicle.airframe tight (ctx.onList id items) flags).run () = _ at ran
    rw [List.map_cons, List.map_cons, runAll, runAll, ran, loosened]
    dsimp only
    rw [ih cleared]

theorem Context.outcomes_loosened {outcome' : Outcome}
    (h : ((ctx.onList id items).check tight stage flags).run () = (.ok outcome, ()))
    (h' : ((ctx.onList id items).check loose stage flags).run () = (.ok outcome', ())) :
    outcome'.flags = outcome.flags ∧ (outcome.passed = true → outcome'.passed = true) ∧
      (stage.measures = false → outcome' = outcome) := by
  have same : stage.measures = false → outcome' = outcome := by
    intro hstage
    rw [check_unmeasured hstage _ tight loose] at h
    exact Except.ok.inj (Prod.mk.inj (h'.symm.trans h)).1
  refine ⟨?_, ?_, same⟩
  · cases hstage : stage.measures with
    | true => rw [flags_of_measures hstage h, flags_of_measures hstage h']
    | false => rw [same hstage]
  · intro passed
    have loosened := check_loosened hcount hlimits h passed
    rw [Except.ok.inj (Prod.mk.inj (h'.symm.trans loosened)).1]
    exact passed

theorem Pass.runsFrom_loosened {R : σ → Unit → Prop}
    (reads : ∀ index < ctx.count, Reads.Agree R (ctx.read index) (readList id items index)) (stages : List Stage)
    (flags : Flags) {store store' : σ} (hstore : R store ()) (hstore' : R store' ())
    (hends : ∀ r ∈ runsFrom ctx tight stages flags store, ∃ outcome, r.answer = .ok outcome)
    (hends' : ∀ r ∈ runsFrom ctx loose stages flags store', ∃ outcome, r.answer = .ok outcome) :
    List.Forall₂ Run.Loosened (runsFrom ctx tight stages flags store) (runsFrom ctx loose stages flags store') := by
  induction stages generalizing flags store store' with
  | nil => exact .nil
  | cons stage rest ih =>
    obtain ⟨answer, hafter⟩ := Context.check_agree reads tight stage flags store () hstore
    obtain ⟨answer', hafter'⟩ := Context.check_agree reads loose stage flags store' () hstore'
    rw [runsFrom] at hends hends' ⊢
    rw [runsFrom]
    rcases hrun : (ctx.check tight stage flags).run store with ⟨fault | outcome, after⟩
    · rw [hrun] at hends
      obtain ⟨outcome, ⟨⟩⟩ := hends _ (List.mem_singleton_self _)
    rcases hrun' : (ctx.check loose stage flags).run store' with ⟨fault | outcome', after'⟩
    · rw [hrun'] at hends'
      obtain ⟨outcome, ⟨⟩⟩ := hends' _ (List.mem_singleton_self _)
    rw [hrun] at hends answer hafter
    rw [hrun'] at hends' answer' hafter'
    have ran : ((ctx.onList id items).check tight stage flags).run () = (.ok outcome, ()) := Prod.ext answer.symm rfl
    have ran' : ((ctx.onList id items).check loose stage flags).run () = (.ok outcome', ()) := Prod.ext answer'.symm rfl
    obtain ⟨same, passes, alike⟩ := Context.outcomes_loosened hcount hlimits ran ran'
    dsimp only at hends'
    rw [same] at hends'
    have later := ih outcome.flags hafter hafter' (fun r hr => hends r (List.mem_cons_of_mem _ hr))
      (fun r hr => hends' r (List.mem_cons_of_mem _ hr))
    dsimp only
    rw [same]
    exact .cons (Run.loosened_of_outcomes passes alike) later

end

namespace Checker

variable {c : Checker σ} {mission : Mission} {limits : Limits} {store : σ} {verdict : Verdict}

def runs (c : Checker σ) (mission : Mission) (limits : Limits) (store : σ) : List (Run σ) :=
  if mission.count ≤ 0 then [] else Pass.runs (c.context mission) limits store

theorem runs_of_verdict (h : (c.check mission limits store).verdict = .ok verdict) :
    verdict.diagnostics = (c.runs mission limits store).flatMap Run.diagnostics ∧
      (0 < mission.count → (c.runs mission limits store).map (·.stage) = Stage.all) ∧
      ∀ r ∈ c.runs mission limits store, ∃ outcome, r.answer = .ok outcome := by
  by_cases hcount : mission.count ≤ 0
  · rw [check, if_pos hcount] at h
    obtain rfl := Except.ok.inj h
    rw [runs, if_pos hcount]
    exact ⟨rfl, fun hpos => absurd hpos (not_lt.mpr hcount), fun r hr => absurd hr List.not_mem_nil⟩
  · rw [runs, if_neg hcount]
    rcases traced_check (show 0 < mission.count by omega) with ⟨ended, answers, stages⟩ | ⟨fault, broken, -⟩
    · obtain rfl := Except.ok.inj (ended.symm.trans h)
      exact ⟨rfl, fun _ => stages, answers⟩
    · rw [broken] at h
      cases h

theorem accepts_loosened (hheld : c.Holds mission items store) (hlimits : tight.LoosensTo loose)
    (haccepts : (c.check mission tight store).Accepts) : (c.check mission loose store).Accepts := by
  have hpos := count_pos_of_accepts haccepts
  obtain ⟨hcount, clears⟩ := clears_onList hheld haccepts
  have same : (c.check mission loose store).verdict = (c.check mission tight store).verdict := by
    rw [verdict_onList hheld hpos, verdict_onList hheld hpos]
    exact congrArg Pass.Trace.verdict (Pass.runAll_loosened hcount hlimits clears)
  obtain ⟨verdict, ended, accepted⟩ := haccepts
  exact ⟨verdict, same.trans ended, accepted⟩

theorem runs_loosened (hheld : c.Holds mission items store) (hlimits : tight.LoosensTo loose)
    (hends : ∀ r ∈ c.runs mission tight store, ∃ outcome, r.answer = .ok outcome)
    (hends' : ∀ r ∈ c.runs mission loose store, ∃ outcome, r.answer = .ok outcome) :
    List.Forall₂ Run.Loosened (c.runs mission tight store) (c.runs mission loose store) := by
  obtain ⟨R, hstore, reads⟩ := hheld.context.agree mission.storageId
  unfold runs at hends hends' ⊢
  split
  · exact .nil
  next hcount =>
    rw [if_neg hcount] at hends hends'
    exact Pass.runsFrom_loosened hheld.context.1 hlimits reads Stage.all {} hstore hstore hends hends'

end Checker

theorem verdict_of_loosensTo (c : Checker σ) (mission : Mission) (tight loose : Limits) (store : σ) (items : List Item)
    (hheld : c.Holds mission items store) (hlimits : tight.LoosensTo loose) :
    ((c.check mission tight store).Accepts → (c.check mission loose store).Accepts) ∧
      ∀ verdict verdict', (c.check mission tight store).verdict = .ok verdict →
        (c.check mission loose store).verdict = .ok verdict' →
          verdict.diagnostics = (c.runs mission tight store).flatMap Run.diagnostics ∧
          verdict'.diagnostics = (c.runs mission loose store).flatMap Run.diagnostics ∧
          (0 < mission.count → (c.runs mission tight store).map (·.stage) = Stage.all) ∧
          List.Forall₂ Run.Loosened (c.runs mission tight store) (c.runs mission loose store) := by
  refine ⟨Checker.accepts_loosened hheld hlimits, ?_⟩
  intro verdict verdict' ended ended'
  obtain ⟨diagnostics, stages, answers⟩ := Checker.runs_of_verdict ended
  obtain ⟨diagnostics', -, answers'⟩ := Checker.runs_of_verdict ended'
  exact ⟨diagnostics, diagnostics', stages, Checker.runs_loosened hheld hlimits answers answers'⟩

theorem verdict_of_loosensTo_takeoff :
    let takeoff : Item := { code := Command.takeoff.code, lat := 47.395, lon := 8.54, altitude := 30.0 }
    let waypoint : Item := { code := Command.waypoint.code, lat := 47.4, lon := 8.54, altitude := 30.0 }
    let land : Item := { code := Command.land.code, lat := 47.405, lon := 8.54 }
    let items := [takeoff, waypoint, land]
    let c : Checker MemoryStore :=
      { read := MemoryStore.read, vehicle := { home := .ofNumbers 47.39 8.54 488.0, presence := Presence.both.number } }
    let mission := MemoryStore.handle "m" items
    let store := MemoryStore.insert {} "m" items
    let tight : Limits := { first := .meters 900.0, between := .meters 2000.0 }
    let loose : Limits := { first := .whole 1000, between := .meters 0.0 }
    (c.check mission tight store).Accepts ∧ (c.check mission loose store).Accepts ∧
      List.Forall₂ Run.Loosened (c.runs mission tight store) (c.runs mission loose store) := by
  intro takeoff waypoint land items c mission store tight loose
  have held : c.Holds mission items store := Checker.holds_memory rfl (MemoryStore.find?_insert_self {} "m" items)
  have loosens : tight.LoosensTo loose :=
    { first := .inr ⟨congrArg Except.ok (by decide +kernel), by decide +kernel⟩
      between := .inl (congrArg Except.ok (by decide +kernel)) }
  obtain ⟨accepts, compares⟩ := verdict_of_loosensTo c mission tight loose store items held loosens
  have accepted : (c.check mission tight store).Accepts := by decide +kernel
  have accepted' : (c.check mission loose store).Accepts := accepts accepted
  have ⟨verdict, ended, _⟩ := accepted
  have ⟨verdict', ended', _⟩ := accepted'
  obtain ⟨-, -, -, loosened⟩ := compares verdict verdict' ended ended'
  exact ⟨accepted, accepted', loosened⟩

end Preflight
