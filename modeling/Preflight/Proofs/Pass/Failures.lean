import Preflight.Proofs.Pass.Stages

namespace Preflight

variable {σ : Type} {ctx : Context σ} {limits : Limits}

/-- The one run whose failed reads reject nothing. -/
def Run.Lenient (ctx : Context σ) (r : Run σ) : Prop := r.stage = .landing ∧ ctx.vehicle.airframe = .rotaryWing

structure Run.FailsClosed (r : Run σ) : Prop where
  passed : r.passed = false
  once : r.diagnostics.countP (fun d => d.code == "mission_storage_failure") = 1

theorem Pass.failsClosed_of_mem_runs {store : σ} {r : Run σ} (h : r ∈ Pass.runs ctx limits store)
    (hfailed : 0 < r.failures ctx limits) (hlenient : ¬ r.Lenient ctx) : r.FailsClosed := by
  obtain ⟨outcome, answer, passed, warnings, reading, findings, hwarnings⟩ :=
    Context.check_unread hlenient (counted_of_mem_runs h) hfailed
  constructor
  case passed => exact (Run.passed_eq answer).trans passed
  case once =>
    have none : warnings.countP (fun f => f.code == "mission_storage_failure") = 0 := by
      rw [List.countP_eq_zero]
      intro f hf
      obtain ⟨index, rfl⟩ := hwarnings f hf
      simp [Finding.code]
    rw [Run.diagnostics_eq answer, List.countP_map, findings, List.countP_append]
    change warnings.countP (fun f => f.code == "mission_storage_failure") + 1 = 1
    rw [none]

def Run.LosesLanding (r : Run σ) : Prop :=
  ∃ outcome, r.answer = .ok outcome ∧ outcome.passed = true ∧ outcome.findings = [] ∧
    outcome.flags = { r.flags with landing := false }

theorem Pass.losesLanding_of_mem_runs {store : σ} {r : Run σ} (h : r ∈ Pass.runs ctx limits store)
    (hfailed : 0 < r.failures ctx limits) (hlenient : r.Lenient ctx) : r.LosesLanding := by
  obtain ⟨stage, airframe⟩ := hlenient
  have counted := counted_of_mem_runs h
  rw [stage] at counted
  exact Context.check_lenient airframe counted hfailed

theorem Pass.catches_of_mem_runs {store : σ} {r : Run σ} (h : r ∈ Pass.runs ctx limits store) (reason : String) :
    r.answer ≠ .error (.storage reason) := by
  have caught := Context.check_catches ctx limits r.stage r.flags r.before reason
  rwa [run_of_mem_runsFrom h] at caught

def Context.AnswersBy (ctx : Context σ) (answer : Nat → Except Fault Item) : Prop :=
  ∀ index < ctx.count, ∀ store, ((ctx.read index).run store).1 = answer index

section

variable {c : Checker σ} {mission : Mission} {store : σ}

theorem reads_of_accepts (h : (c.check mission limits store).Accepts) :
    ∀ index < (c.context mission).count, ∃ before item after,
      ((c.context mission).read index).run before = (.ok item, after) := by
  obtain ⟨stages, passed⟩ := Checker.passed_of_accepts h
  have validity : Stage.validity ∈ (Pass.runs (c.context mission) limits store).map (·.stage) := by
    rw [stages]
    decide
  obtain ⟨r, hr, stage⟩ := List.mem_map.mp validity
  obtain ⟨outcome, answer, hpassed⟩ := Run.ok_of_passed (passed r hr)
  have ran := Pass.run_of_mem_runsFrom hr
  rw [stage, answer] at ran
  exact Check.validity_reads ran hpassed

theorem not_accepts_of_failure (hfailed : ∃ r ∈ Pass.runs (c.context mission) limits store,
      ¬ r.Lenient (c.context mission) ∧ 0 < r.failures (c.context mission) limits) :
    ¬ (c.check mission limits store).Accepts := by
  obtain ⟨failed, hmem, hlenient, hfailures⟩ := hfailed
  intro accepts
  have passed := (Checker.passed_of_accepts accepts).2 failed hmem
  rw [(Pass.failsClosed_of_mem_runs hmem hfailures hlenient).passed] at passed
  cases passed

theorem catches_check (hcount : 0 < mission.count) (reason : String) :
    (c.check mission limits store).verdict ≠ .error (.storage reason) := by
  rcases Checker.traced_check hcount with ⟨ended, -, -⟩ | ⟨fault, broken, last, hlast, answer⟩
  · rw [ended]
    nofun
  · rw [broken]
    intro storage
    obtain rfl := Except.error.inj storage
    exact Pass.catches_of_mem_runs hlast reason answer

theorem rejects_iff_of_failure (hcount : 0 < mission.count)
    (hfailed : ∃ r ∈ Pass.runs (c.context mission) limits store,
      ¬ r.Lenient (c.context mission) ∧ 0 < r.failures (c.context mission) limits) :
    (c.check mission limits store).Rejects ↔
      ∀ r ∈ Pass.runs (c.context mission) limits store, ∃ outcome, r.answer = .ok outcome := by
  obtain ⟨failed, hmem, hlenient, hfailures⟩ := hfailed
  rcases Checker.traced_check hcount with ⟨ended, answers, stages⟩ | ⟨fault, broken, last, hlast, answer⟩
  · refine iff_of_true ⟨_, ended, ?_⟩ answers
    change (Pass.runs (c.context mission) limits store).all Run.passed = false
    rw [List.all_eq_false]
    exact ⟨failed, hmem, by simp [(Pass.failsClosed_of_mem_runs hmem hfailures hlenient).passed]⟩
  · refine iff_of_false ?_ ?_
    · rintro ⟨verdict, hverdict, -⟩
      rw [broken] at hverdict
      exact nomatch hverdict
    · intro answers
      obtain ⟨outcome, ended⟩ := answers last hlast
      exact nomatch answer.symm.trans ended

end

/-- Failed reads never lead to acceptance. A mission is rejected for one unless another fault breaks the pass off. -/
theorem failed_reads_reject (c : Checker σ) (mission : Mission) (limits : Limits) (store : σ)
    (hcount : 0 < mission.count) :
    (∀ reason, (c.check mission limits store).verdict ≠ .error (.storage reason)) ∧
      (∀ r ∈ Pass.runs (c.context mission) limits store, 0 < r.failures (c.context mission) limits →
        (r.Lenient (c.context mission) → r.LosesLanding) ∧ (¬ r.Lenient (c.context mission) → r.FailsClosed)) ∧
      ((∃ r ∈ Pass.runs (c.context mission) limits store,
          ¬ r.Lenient (c.context mission) ∧ 0 < r.failures (c.context mission) limits) →
        ¬ (c.check mission limits store).Accepts ∧
          ((c.check mission limits store).Rejects ↔
            ∀ r ∈ Pass.runs (c.context mission) limits store, ∃ outcome, r.answer = .ok outcome)) ∧
      ∀ answer, (c.context mission).AnswersBy answer → (c.check mission limits store).Accepts →
        (∀ index < mission.count.toNat, ∃ item, answer index = .ok item) ∧
          ∀ items, (∀ index, answer index = itemAt mission.storageId index items) → mission.count ≤ items.length := by
  refine ⟨catches_check hcount, fun r hr hfailed => ⟨Pass.losesLanding_of_mem_runs hr hfailed,
    Pass.failsClosed_of_mem_runs hr hfailed⟩, fun hfailed => ⟨not_accepts_of_failure hfailed,
    rejects_iff_of_failure hcount hfailed⟩, ?_⟩
  intro answer hanswer accepts
  have readable : ∀ index < mission.count.toNat, ∃ item, answer index = .ok item := by
    intro index hi
    obtain ⟨before, item, after, hread⟩ := reads_of_accepts accepts index hi
    refine ⟨item, ?_⟩
    rw [← hanswer index hi before, hread]
  refine ⟨readable, fun items hitems => ?_⟩
  obtain ⟨item, last⟩ := readable (mission.count.toNat - 1) (by omega)
  rw [hitems, itemAt_eq_ok] at last
  obtain ⟨bound, -⟩ := List.getElem?_eq_some_iff.mp last
  omega

theorem failed_reads_reject_unreadable :
    let c : Checker Unit := { read := fun _ _ => .ofExcept (.error (.storage "gone")), vehicle := {} }
    0 < (⟨2, "m"⟩ : Mission).count ∧ (c.check ⟨2, "m"⟩ {} ()).Rejects := by
  intro c
  have failed : ∃ r ∈ Pass.runs (c.context ⟨2, "m"⟩) {} (),
      r.stage = .validity ∧ 0 < r.failures (c.context ⟨2, "m"⟩) {} := by decide
  have ended : ∀ r ∈ Pass.runs (c.context ⟨2, "m"⟩) {} (), r.answer.toOption.isSome = true := by decide
  refine ⟨by decide, ((failed_reads_reject c ⟨2, "m"⟩ {} () (by decide)).2.2.1 ?_).2.mpr ?_⟩
  · obtain ⟨r, hr, stage, hfailed⟩ := failed
    exact ⟨r, hr, fun lenient => by simp [lenient.1] at stage, hfailed⟩
  · intro r hr
    have answered := ended r hr
    cases hanswer : r.answer with
    | error fault => simp [hanswer, Except.toOption] at answered
    | ok outcome => exact ⟨outcome, rfl⟩

theorem failed_read_breaks_off :
    let servo : Item := { code := Command.doSetServo.code, params := .ofList [Double.infinity] }
    let c : Checker Unit :=
      { read := fun _ index => .ofExcept (if index = 0 then .ok servo else .error (.storage "gone"))
        vehicle := { home := .ofNumbers 0.0 0.0 0.0 } }
    let limits : Limits := { first := .meters 900.0 }
    (∃ r ∈ Pass.runs (c.context ⟨2, "m"⟩) limits (), r.stage = .first ∧ 0 < r.failures (c.context ⟨2, "m"⟩) limits) ∧
      ¬ (c.check ⟨2, "m"⟩ limits ()).Rejects := by
  intro servo c limits
  exact ⟨by decide, by decide⟩

end Preflight
