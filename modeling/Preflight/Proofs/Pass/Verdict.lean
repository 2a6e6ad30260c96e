import Preflight.Proofs.Pass.Stages

namespace Preflight

variable {σ : Type} {ctx : Context σ} {limits : Limits}

/-- What a run reported: warnings of the home-altitude check, and one violation if its check failed. -/
structure Run.Accounted (ctx : Context σ) (limits : Limits) (r : Run σ) : Prop where
  passed : r.passed = true → ∀ d ∈ r.diagnostics, d.severity = .warning
  failed : r.passed = false → ∃ warnings last, r.diagnostics = warnings ++ [last] ∧
    (∀ d ∈ warnings, d.severity = .warning) ∧ last.severity ≠ .warning
  warns : ∀ d ∈ r.diagnostics, d.severity = .warning → r.stage = .homeAltitude
  cites : ∀ d ∈ r.diagnostics, ∀ n, d.item = some n → 1 ≤ n ∧ n ≤ ctx.count
  warned : r.warned = true ↔ (∃ d ∈ r.diagnostics, d.code ∈ Finding.cautionCodes) ∨
    r.stage = .homeAltitude ∧ 0 < r.failures ctx limits

theorem Pass.accounted_of_mem_runs {store : σ} {r : Run σ} (h : r ∈ Pass.runs ctx limits store) {outcome : Outcome}
    (answer : r.answer = .ok outcome) : r.Accounted ctx limits := by
  have ran := run_of_mem_runsFrom h
  have counted := counted_of_mem_runs h
  rw [answer] at ran counted
  obtain ⟨warnings, rejection, reports, stage⟩ := Context.check_reports ran
  have diagnostics : r.diagnostics = outcome.findings.map Finding.diagnostic := Run.diagnostics_eq answer
  have passed : r.passed = rejection.isNone := (Run.passed_eq answer).trans reports.passed
  constructor
  case passed =>
    intro hpassed d hd
    obtain rfl := Option.isNone_iff_eq_none.mp (passed.symm.trans hpassed)
    rw [diagnostics, reports.findings, Option.toList_none, List.append_nil] at hd
    obtain ⟨f, hf, rfl⟩ := List.mem_map.mp hd
    exact reports.severity_of_warning hf
  case failed =>
    intro hfailed
    obtain ⟨f, rfl⟩ := Option.isSome_iff_exists.mp (show rejection.isSome = true by simp_all)
    refine ⟨warnings.map Finding.diagnostic, f.diagnostic, ?_, ?_, (reports.rejects f rfl).severity⟩
    · rw [diagnostics, reports.findings, List.map_append]
      rfl
    · intro d hd
      obtain ⟨warning, hwarning, rfl⟩ := List.mem_map.mp hd
      exact reports.severity_of_warning hwarning
  case warns =>
    intro d hd hwarning
    rw [diagnostics] at hd
    obtain ⟨f, hf, rfl⟩ := List.mem_map.mp hd
    rcases reports.mem_or_rejects hf with hf | rejects
    · exact stage.resolve_left (List.ne_nil_of_mem hf)
    · exact absurd hwarning rejects.severity
  case cites =>
    intro d hd
    rw [diagnostics] at hd
    obtain ⟨f, hf, rfl⟩ := List.mem_map.mp hd
    exact reports.cites hf
  case warned =>
    have cautions : outcome.findings.any Finding.isCaution = true ↔
        ∃ d ∈ r.diagnostics, d.code ∈ Finding.cautionCodes := by
      rw [Run.diagnostics_eq answer]
      simp [Finding.isCaution_iff, Finding.diagnostic]
    rw [← cautions, ← Context.check_warning counted, Run.warned_eq answer]

structure Verdict.Accounted (ctx : Context σ) (limits : Limits) (runs : List (Run σ)) (v : Verdict) : Prop where
  stages : runs.map (·.stage) = Stage.all
  diagnostics : v.diagnostics = runs.flatMap Run.diagnostics
  each : ∀ r ∈ runs, r.Accounted ctx limits
  accepted : v.accepted = true ↔ v.violations = []
  violations : v.violations.length = runs.countP fun r => !r.passed
  cites : ∀ d ∈ v.diagnostics, ∀ n, d.item = some n → 1 ≤ n ∧ n ≤ ctx.count
  warning : v.warning = true ↔ (∃ d ∈ v.diagnostics, d.code ∈ Finding.cautionCodes) ∨
    ∃ r ∈ runs, r.stage = .homeAltitude ∧ 0 < r.failures ctx limits

theorem violations_of_accounted {runs : List (Run σ)} (h : ∀ r ∈ runs, r.Accounted ctx limits) :
    (Verdict.ofRuns runs).violations.length = runs.countP fun r => !r.passed := by
  change ((runs.flatMap Run.diagnostics).filter Diagnostic.isViolation).length = _
  induction runs with
  | nil => rfl
  | cons r rest ih =>
    -- A run holds one violation if it failed, its last diagnostic, and none if it passed.
    have violations : (r.diagnostics.filter Diagnostic.isViolation).length = if !r.passed then 1 else 0 := by
      have accounted := h r (by simp)
      cases hpassed : r.passed with
      | true =>
        have none : r.diagnostics.filter Diagnostic.isViolation = [] := by
          rw [List.filter_eq_nil_iff]
          intro d hd
          simp [Diagnostic.isViolation, accounted.passed hpassed d hd]
        simp [none]
      | false =>
        obtain ⟨warnings, last, diagnostics, hwarnings, hlast⟩ := accounted.failed hpassed
        have none : warnings.filter Diagnostic.isViolation = [] := by
          rw [List.filter_eq_nil_iff]
          intro d hd
          simp [Diagnostic.isViolation, hwarnings d hd]
        have one : last.isViolation = true := by simpa [Diagnostic.isViolation] using hlast
        simp [diagnostics, none, one]
    rw [List.flatMap_cons, List.filter_append, List.length_append, violations,
      ih fun r hr => h r (List.mem_cons_of_mem _ hr), List.countP_cons, Nat.add_comm]

theorem accounted_ofRuns {runs : List (Run σ)} (stages : runs.map (·.stage) = Stage.all)
    (h : ∀ r ∈ runs, r.Accounted ctx limits) : (Verdict.ofRuns runs).Accounted ctx limits runs := by
  constructor
  case stages => exact stages
  case diagnostics => rfl
  case each => exact h
  case accepted =>
    rw [← List.length_eq_zero_iff, violations_of_accounted h, List.countP_eq_zero]
    simp [Verdict.ofRuns]
  case violations => exact violations_of_accounted h
  case cites =>
    intro d hd
    obtain ⟨r, hr, hd⟩ := List.mem_flatMap.mp hd
    exact (h r hr).cites d hd
  case warning =>
    change runs.any Run.warned = true ↔ (∃ d ∈ runs.flatMap Run.diagnostics, _) ∨ _
    rw [List.any_eq_true]
    constructor
    · rintro ⟨r, hr, hwarned⟩
      rcases (h r hr).warned.mp hwarned with ⟨d, hd, caution⟩ | failed
      · exact .inl ⟨d, List.mem_flatMap.mpr ⟨r, hr, hd⟩, caution⟩
      · exact .inr ⟨r, hr, failed⟩
    · rintro (⟨d, hd, caution⟩ | ⟨r, hr, failed⟩)
      · obtain ⟨r, hr, hd⟩ := List.mem_flatMap.mp hd
        exact ⟨r, hr, (h r hr).warned.mpr (.inl ⟨d, hd, caution⟩)⟩
      · exact ⟨r, hr, (h r hr).warned.mpr (.inr failed)⟩

/-- A verdict and its diagnostics never disagree. -/
theorem verdict_accounted (c : Checker σ) (mission : Mission) (limits : Limits) (store : σ) :
    (mission.count ≤ 0 → (c.check mission limits store).verdict = .ok ⟨false, false, []⟩) ∧
      (0 < mission.count → ∀ verdict, (c.check mission limits store).verdict = .ok verdict →
        verdict.Accounted (c.context mission) limits (Pass.runs (c.context mission) limits store)) := by
  constructor
  · intro hcount
    rw [Checker.check, if_pos hcount]
    rfl
  · intro hcount verdict hverdict
    rcases Checker.traced_check hcount with ⟨ended, answers, stages⟩ | ⟨fault, broken, -⟩
    · obtain rfl := Except.ok.inj (ended.symm.trans hverdict)
      refine accounted_ofRuns stages fun r hr => ?_
      obtain ⟨outcome, answer⟩ := answers r hr
      exact Pass.accounted_of_mem_runs hr answer
    · rw [broken] at hverdict
      cases hverdict

theorem verdict_accounted_unreadable :
    let c : Checker Unit := { read := fun _ _ => .ofExcept (.error (.storage "gone")), vehicle := {} }
    0 < (⟨2, "m"⟩ : Mission).count ∧ ∃ verdict, (c.check ⟨2, "m"⟩ {} ()).verdict = .ok verdict ∧
      verdict.Accounted (c.context ⟨2, "m"⟩) {} (Pass.runs (c.context ⟨2, "m"⟩) {} ()) :=
  ⟨by decide, _, rfl, (verdict_accounted _ ⟨2, "m"⟩ {} ()).2 (by decide) _ rfl⟩

end Preflight
