import Preflight.Checker

namespace Preflight

variable {σ : Type}

inductive Stage where
  | first
  | validity
  | between
  | fence
  | homeAltitude
  | takeoff
  | landing
  | presence
  deriving DecidableEq, Repr

namespace Stage

def all : List Stage := [first, validity, between, fence, homeAltitude, takeoff, landing, presence]

def check (airframe : Airframe) (limits : Limits) : Stage → Check σ
  | first => Pass.first limits.first
  | validity => Check.validity
  | between => Check.betweenDistance limits.between
  | fence => Check.fence
  | homeAltitude => Check.homeAltitude
  | takeoff => Check.takeoff
  | landing => Check.landing airframe
  | presence => Check.presence

theorem map_check_all (airframe : Airframe) (limits : Limits) :
    all.map (check airframe limits) = (Pass.checks airframe limits : List (Check σ)) := rfl

end Stage

def Context.check (ctx : Context σ) (limits : Limits) (stage : Stage) (flags : Flags) : Reads σ Outcome :=
  stage.check ctx.vehicle.airframe limits ctx flags

structure Run (σ : Type) where
  stage : Stage
  flags : Flags
  before : σ
  answer : Except Fault Outcome
  after : σ

namespace Run

def passed (r : Run σ) : Bool :=
  match r.answer with
  | .ok outcome => outcome.passed
  | .error _ => false

def warned (r : Run σ) : Bool :=
  match r.answer with
  | .ok outcome => outcome.warning
  | .error _ => false

def diagnostics (r : Run σ) : List Diagnostic :=
  match r.answer with
  | .ok outcome => outcome.findings.map Finding.diagnostic
  | .error _ => []

variable {r : Run σ} {outcome : Outcome}

theorem passed_eq (h : r.answer = .ok outcome) : r.passed = outcome.passed := by rw [passed, h]

theorem warned_eq (h : r.answer = .ok outcome) : r.warned = outcome.warning := by rw [warned, h]

theorem ok_of_passed (h : r.passed = true) : ∃ outcome, r.answer = .ok outcome ∧ outcome.passed = true := by
  cases answer : r.answer with
  | error fault =>
    rw [passed, answer] at h
    cases h
  | ok outcome => exact ⟨outcome, rfl, (passed_eq answer).symm.trans h⟩

theorem diagnostics_eq (h : r.answer = .ok outcome) : r.diagnostics = outcome.findings.map Finding.diagnostic := by
  rw [diagnostics, h]

end Run

def Verdict.ofRuns (runs : List (Run σ)) : Verdict :=
  { accepted := runs.all Run.passed
    warning := runs.any Run.warned
    diagnostics := runs.flatMap Run.diagnostics }

theorem ofOutcomes_eq_ofRuns {runs : List (Run σ)} {outcomes : List Outcome}
    (h : runs.map (·.answer) = outcomes.map .ok) : Verdict.ofOutcomes outcomes = Verdict.ofRuns runs := by
  induction runs generalizing outcomes with
  | nil =>
    obtain rfl := List.map_eq_nil_iff.mp h.symm
    rfl
  | cons r rest ih =>
    obtain ⟨outcome, others, rfl, answer, hrest⟩ := List.map_eq_cons_iff.mp h.symm
    have tail := ih hrest.symm
    simp only [Verdict.ofOutcomes, Verdict.ofRuns, Verdict.mk.injEq] at tail ⊢
    obtain ⟨accepted, warning, diagnostics⟩ := tail
    refine ⟨?_, ?_, ?_⟩
    · simp [accepted, Run.passed_eq answer.symm]
    · simp [warning, Run.warned_eq answer.symm]
    · simp [← diagnostics, Run.diagnostics_eq answer.symm]

namespace Pass

def runsFrom (ctx : Context σ) (limits : Limits) : List Stage → Flags → σ → List (Run σ)
  | [], _, _ => []
  | stage :: rest, flags, before =>
    match (ctx.check limits stage flags).run before with
    | (.error fault, after) => [⟨stage, flags, before, .error fault, after⟩]
    | (.ok outcome, after) =>
      ⟨stage, flags, before, .ok outcome, after⟩ :: runsFrom ctx limits rest outcome.flags after

def runs (ctx : Context σ) (limits : Limits) (store : σ) : List (Run σ) := runsFrom ctx limits Stage.all {} store

variable {ctx : Context σ} {limits : Limits}

theorem run_of_mem_runsFrom {stages : List Stage} {flags : Flags} {store : σ} {r : Run σ}
    (h : r ∈ runsFrom ctx limits stages flags store) :
    (ctx.check limits r.stage r.flags).run r.before = (r.answer, r.after) := by
  induction stages generalizing flags store with
  | nil => simp [runsFrom] at h
  | cons stage rest ih =>
    rw [runsFrom] at h
    rcases hrun : (ctx.check limits stage flags).run store with ⟨fault | outcome, after⟩
    · simp only [hrun, List.mem_singleton] at h
      rw [h, hrun]
    · simp only [hrun, List.mem_cons] at h
      rcases h with rfl | h
      · exact hrun
      · exact ih h

inductive Traced (stages : List Stage) (runs : List (Run σ)) (trace : Trace σ) : Prop where
  | ended (outcomes : runs.map (·.answer) = trace.outcomes.map .ok) (stages : runs.map (·.stage) = stages)
    (fault : trace.fault = none)
  | broken (before : List (Run σ)) (last : Run σ) (fault : Fault) (runs : runs = before ++ [last])
    (answer : last.answer = .error fault) (fault : trace.fault = some fault)

theorem traced_runAll (stages : List Stage) (flags : Flags) (store : σ) :
    Traced stages (runsFrom ctx limits stages flags store)
      (runAll ctx (stages.map (Stage.check ctx.vehicle.airframe limits)) flags store) := by
  induction stages generalizing flags store with
  | nil => exact .ended rfl rfl rfl
  | cons stage rest ih =>
    rw [runsFrom, Context.check, List.map_cons, runAll]
    rcases (stage.check ctx.vehicle.airframe limits ctx flags).run store with ⟨fault | outcome, after⟩
    · exact .broken [] _ fault rfl rfl rfl
    · rcases ih outcome.flags after with ⟨outcomes, stages, fault⟩ | ⟨before, last, fault, runs, answer, hfault⟩
      · exact .ended (by simp [outcomes]) (by simp [stages]) fault
      · exact .broken (⟨stage, flags, store, .ok outcome, after⟩ :: before) last fault (by simp [runs]) answer hfault

end Pass

instance (x : Except Fault Verdict) (fault : Fault) : Decidable (x = .error fault) :=
  match x with
  | .error other => decidable_of_iff (other = fault) (by simp)
  | .ok _ => .isFalse nofun

namespace Answer

def Accepts (a : Answer σ) : Prop := ∃ verdict, a.verdict = .ok verdict ∧ verdict.accepted = true

def Rejects (a : Answer σ) : Prop := ∃ verdict, a.verdict = .ok verdict ∧ verdict.accepted = false

theorem accepts_iff (a : Answer σ) : a.Accepts ↔ a.verdict.toOption.any (·.accepted) = true := by
  unfold Accepts
  cases a.verdict <;> simp [Except.toOption]

theorem rejects_iff (a : Answer σ) : a.Rejects ↔ a.verdict.toOption.any (!·.accepted) = true := by
  unfold Rejects
  cases a.verdict <;> simp [Except.toOption]

instance (a : Answer σ) : Decidable a.Accepts := decidable_of_iff _ a.accepts_iff.symm

instance (a : Answer σ) : Decidable a.Rejects := decidable_of_iff _ a.rejects_iff.symm

end Answer

namespace Checker

variable {c : Checker σ} {mission : Mission} {limits : Limits} {store : σ}

theorem check_of_count (hcount : 0 < mission.count) :
    (c.check mission limits store).verdict = (Pass.run (c.context mission) limits store).verdict := by
  rw [check, if_neg (by omega)]

theorem traced_check (hcount : 0 < mission.count) :
    ((c.check mission limits store).verdict = .ok (.ofRuns (Pass.runs (c.context mission) limits store)) ∧
      (∀ r ∈ Pass.runs (c.context mission) limits store, ∃ outcome, r.answer = .ok outcome) ∧
      (Pass.runs (c.context mission) limits store).map (·.stage) = Stage.all) ∨
    ∃ fault, (c.check mission limits store).verdict = .error fault ∧
      ∃ r ∈ Pass.runs (c.context mission) limits store, r.answer = .error fault := by
  rw [check_of_count hcount]
  have traced : Pass.Traced Stage.all (Pass.runs (c.context mission) limits store)
      (Pass.run (c.context mission) limits store) := by
    rw [Pass.run, ← Stage.map_check_all]
    exact Pass.traced_runAll Stage.all {} store
  rcases traced with ⟨outcomes, stages, fault⟩ | ⟨before, last, fault, runs, answer, hfault⟩
  · refine .inl ⟨?_, ?_, stages⟩
    · rw [Pass.Trace.verdict, fault]
      exact congrArg Except.ok (ofOutcomes_eq_ofRuns outcomes)
    · intro r hr
      have answered : r.answer ∈ (Pass.runs (c.context mission) limits store).map (·.answer) := List.mem_map_of_mem hr
      rw [outcomes] at answered
      obtain ⟨outcome, -, answer⟩ := List.mem_map.mp answered
      exact ⟨outcome, answer.symm⟩
  · exact .inr ⟨fault, by rw [Pass.Trace.verdict, hfault], last, by simp [runs], answer⟩

theorem count_pos_of_accepts (h : (c.check mission limits store).Accepts) : 0 < mission.count := by
  obtain ⟨verdict, hverdict, accepted⟩ := h
  by_cases hcount : mission.count ≤ 0
  · rw [check, if_pos hcount] at hverdict
    obtain rfl := Except.ok.inj hverdict
    cases accepted
  · omega

theorem passed_of_accepts (h : (c.check mission limits store).Accepts) :
    (Pass.runs (c.context mission) limits store).map (·.stage) = Stage.all ∧
      ∀ r ∈ Pass.runs (c.context mission) limits store, r.passed = true := by
  have hcount := count_pos_of_accepts h
  obtain ⟨verdict, hverdict, accepted⟩ := h
  rcases traced_check hcount with ⟨ended, -, stages⟩ | ⟨fault, broken, -⟩
  · obtain rfl := Except.ok.inj (ended.symm.trans hverdict)
    exact ⟨stages, List.all_eq_true.mp accepted⟩
  · rw [broken] at hverdict
    cases hverdict

end Checker

end Preflight
