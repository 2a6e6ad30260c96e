import Preflight.Proofs.Check.Report
import Preflight.Proofs.Check.Settle

namespace Preflight.Check

variable {σ τ : Type} {ctx : Context σ} {flags : Flags} {outcome : Outcome}

theorem presence_run (ctx : Context σ) (flags : Flags) (store : σ) :
    (presence ctx flags).run store =
      (.ok (match (Presence.ofNumber? ctx.vehicle.presence).bind (missing · flags) with
        | some finding => .fail flags finding
        | none => .pass flags), store) := by
  unfold presence
  cases (Presence.ofNumber? ctx.vehicle.presence).bind (missing · flags) <;> rfl

theorem missing_rejects {policy : Presence} {finding : Finding} {count : Nat}
    (h : missing policy flags = some finding) : finding.Rejects count ∧ finding.isCaution = false := by
  have named : finding ∈
      [.takeoffMissing, .landingMissing, .takeoffOrLandingMissing, .landingToAdd, .takeoffToAdd] := by
    unfold missing at h
    grind
  simp only [List.mem_cons, List.not_mem_nil, or_false] at named
  rcases named with rfl | rfl | rfl | rfl | rfl
  all_goals exact ⟨Finding.rejects_of_none (by simp [Finding.severity]) rfl, rfl⟩

theorem presence_plain {store after : σ} (h : (presence ctx flags).run store = (.ok outcome, after)) :
    outcome.Plain ctx.count := by
  rw [presence_run] at h
  obtain rfl := Except.ok.inj (Prod.mk.inj h).1
  split
  next finding hmissing =>
    obtain ⟨policy, -, hfinding⟩ := Option.bind_eq_some_iff.mp hmissing
    obtain ⟨rejects, plain⟩ := missing_rejects hfinding
    exact Outcome.plain_fail flags rejects plain
  next => exact Outcome.plain_pass ctx.count flags

theorem presence_agree {R : σ → τ → Prop} {read : Nat → Reads τ Item} :
    Reads.Agree R (presence ctx flags) (presence (ctx.withRead read) flags) := by
  intro store store' hstore
  rw [presence_run, presence_run]
  exact ⟨rfl, hstore⟩

theorem presence_flags {store after : σ} (h : (presence ctx flags).run store = (.ok outcome, after)) :
    outcome.flags = flags := by
  rw [presence_run] at h
  obtain rfl := Except.ok.inj (Prod.mk.inj h).1
  split <;> rfl

theorem presence_catches : (presence ctx flags).Catches := by
  intro store reason
  rw [presence_run]
  nofun

theorem presence_passed {store after : σ} (h : (presence ctx flags).run store = (.ok outcome, after))
    (hpassed : outcome.passed = true) {policy : Presence}
    (hpolicy : Presence.ofNumber? ctx.vehicle.presence = some policy) : missing policy flags = none := by
  rw [presence_run, hpolicy] at h
  obtain rfl := Except.ok.inj (Prod.mk.inj h).1
  split at hpassed
  · exact nomatch hpassed
  next hmissing => exact hmissing

end Preflight.Check
