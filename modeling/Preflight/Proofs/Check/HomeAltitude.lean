import Preflight.Proofs.Check.Counted
import Preflight.Proofs.Check.Report

namespace Preflight.Check

variable {σ τ : Type} {ctx : Context σ} {flags : Flags} {outcome : Outcome}

def closeHomeAltitude (flags : Flags) : Progress (List Finding) (List Finding) → Outcome
  | .going warnings => { passed := true, flags, warning := !warnings.isEmpty, findings := warnings }
  | .stopped findings => { passed := false, flags, warning := true, findings }
  | .unreadable reason warnings =>
    let failure := Outcome.unreadable flags reason false
    { failure with warning := true, findings := warnings ++ failure.findings }

theorem homeAltitude_eq (ctx : Context σ) (flags : Flags) :
    homeAltitude ctx flags = ctx.settle (.ok none) []
      (fun index item warnings => .ofExcept (.ok (compareWithHome ctx index item warnings)))
      (closeHomeAltitude flags) :=
  bind_congr fun progress => by cases progress <;> rfl

def AreBelowHome (count : Nat) (warnings : List Finding) : Prop := ∀ f ∈ warnings, ∃ index < count, f = .belowHome index

def EndsUnresolved (count : Nat) (findings : List Finding) : Prop :=
  ∃ warnings, ∃ index < count, findings = warnings ++ [.relativeWithoutHome index] ∧ AreBelowHome count warnings

theorem AreBelowHome.mono {count last : Nat} {warnings : List Finding} (h : AreBelowHome count warnings)
    (hlast : count ≤ last) : AreBelowHome last warnings := by
  intro f hf
  obtain ⟨index, hi, rfl⟩ := h f hf
  exact ⟨index, by omega, rfl⟩

theorem compareWithHome_keeps {index count : Nat} (hi : index < count) (item : Item) {warnings : List Finding}
    (h : AreBelowHome index warnings) :
    (compareWithHome ctx index item warnings).Keeps AreBelowHome (EndsUnresolved count) index := by
  unfold compareWithHome
  dsimp only
  split
  · exact ⟨warnings, index, hi, rfl, h.mono (by omega)⟩
  · split
    · intro f hf
      rcases List.mem_append.mp hf with hf | hf
      · exact h.mono (by omega) f hf
      · exact ⟨index, by omega, List.mem_singleton.mp hf⟩
    · exact h.mono (by omega)

theorem compareWithHome_readable {index : Nat} {item : Item} {warnings : List Finding} (reason : String)
    (next : List Finding) : compareWithHome ctx index item warnings ≠ .unreadable reason next := by
  unfold compareWithHome
  dsimp only
  split
  · nofun
  · split <;> nofun

theorem homeAltitude_scan {store after : σ} (h : (homeAltitude ctx flags).run store = (.ok outcome, after)) :
    ∃ progress, outcome = closeHomeAltitude flags progress ∧
      progress.Obeys AreBelowHome (EndsUnresolved ctx.count) ctx.count ∧
      (ctx.scan [] fun index item warnings => .ofExcept (.ok (compareWithHome ctx index item warnings))).run store =
        (.ok progress, after) := by
  rw [homeAltitude_eq] at h
  rcases settle_ok h with ⟨decided, -⟩ | ⟨-, progress, hscan, rfl⟩
  · simp at decided
  · refine ⟨progress, rfl, scan_obeys ?_ (by simp [AreBelowHome]) hscan, hscan⟩
    intro index hi item warnings store progress after hwarnings hvisit
    obtain rfl := Except.ok.inj (Prod.mk.inj hvisit).1
    exact compareWithHome_keeps hi item hwarnings

theorem homeAltitude_reports {store after : σ} (h : (homeAltitude ctx flags).run store = (.ok outcome, after)) :
    ∃ warnings rejection, outcome.Reports ctx.count warnings rejection := by
  obtain ⟨progress, rfl, obeys, -⟩ := homeAltitude_scan h
  rcases progress with warnings | findings | ⟨reason, warnings⟩
  · exact ⟨warnings, none, by simp [closeHomeAltitude], rfl, obeys, by simp⟩
  · obtain ⟨warnings, index, hi, rfl, hwarnings⟩ := obeys
    have rejects := Finding.rejects_of_number hi (f := .relativeWithoutHome index) rfl rfl
    exact ⟨warnings, some (.relativeWithoutHome index), rfl, rfl, hwarnings, by simpa using rejects⟩
  · obtain ⟨index, hi, hwarnings⟩ := obeys
    have rejects := Finding.storageFailure_rejects ctx.count false
    exact ⟨warnings, some (.storageFailure false), rfl, rfl, hwarnings.mono hi, by simpa using rejects⟩

theorem homeAltitude_warning {store after : σ × Nat}
    (h : (homeAltitude ctx.counted flags).run store = (.ok outcome, after)) :
    outcome.warning = true ↔ outcome.findings.any Finding.isCaution = true ∨ store.2 < after.2 := by
  obtain ⟨progress, rfl, obeys, hscan⟩ := homeAltitude_scan h
  have counted : store.2 < after.2 ↔ ∃ reason seen, progress = .unreadable reason seen :=
    scan_counted (fun _ _ _ => compareWithHome_readable) hscan
  rw [counted]
  rcases progress with warnings | findings | ⟨reason, warnings⟩
  · cases warnings with
    | nil => simp [closeHomeAltitude]
    | cons f rest =>
      obtain ⟨index, -, rfl⟩ := obeys f (by simp)
      simp [closeHomeAltitude, Finding.isCaution]
  · obtain ⟨warnings, index, -, rfl, -⟩ := obeys
    simp [closeHomeAltitude, Finding.isCaution]
  · simp [closeHomeAltitude]

theorem homeAltitude_agree {R : σ → τ → Prop} {read : Nat → Reads τ Item}
    (reads : ∀ index < ctx.count, Reads.Agree R (ctx.read index) (read index)) :
    Reads.Agree R (homeAltitude ctx flags) (homeAltitude (ctx.withRead read) flags) := by
  rw [homeAltitude_eq, homeAltitude_eq]
  exact settle_agree reads _ _ (fun _ _ _ _ => .ofExcept _) _

theorem homeAltitude_catches : (homeAltitude ctx flags).Catches := by
  rw [homeAltitude_eq]
  exact settle_catches ctx _ _ _ nofun

theorem homeAltitude_unread {store after : σ × Nat} {answer : Except Fault Outcome}
    (h : (homeAltitude ctx.counted flags).run store = (answer, after)) (hfailed : store.2 < after.2) :
    ∃ o, answer = .ok o ∧ o.Unread := by
  -- A failed read lets the check end; its scan then says which warnings came before the failure.
  have closed := h
  rw [homeAltitude_eq] at closed
  obtain ⟨_, _, rfl⟩ := settle_counted (fun _ _ _ => Reads.honest_ofExcept _) closed hfailed
  obtain ⟨progress, hclose, obeys, hscan⟩ := homeAltitude_scan h
  obtain ⟨reason, warnings, rfl⟩ := (scan_counted (fun _ _ _ => compareWithHome_readable) hscan).mp hfailed
  obtain ⟨last, -, hwarnings⟩ := obeys
  refine ⟨_, congrArg Except.ok hclose, rfl, warnings, false, rfl, fun f hf => ?_⟩
  obtain ⟨index, -, rfl⟩ := hwarnings f hf
  exact ⟨index, rfl⟩

theorem homeAltitude_flags {store after : σ} (h : (homeAltitude ctx flags).run store = (.ok outcome, after)) :
    outcome.flags = flags := by
  obtain ⟨progress, rfl, -, -⟩ := homeAltitude_scan h
  cases progress <;> rfl

end Preflight.Check
