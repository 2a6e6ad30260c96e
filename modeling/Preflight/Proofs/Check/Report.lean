import Preflight.Check.Outcome

namespace Preflight

namespace Finding

def Cites (count : Nat) (f : Finding) : Prop := ∀ n, f.item = some n → 1 ≤ n ∧ n ≤ count

structure Rejects (count : Nat) (f : Finding) : Prop where
  severity : f.severity ≠ .warning
  cites : f.Cites count

def isCaution : Finding → Bool
  | belowHome _ | relativeWithoutHome _ | firstTooFar .. | tooFarApart .. | gateTooClose .. => true
  | _ => false

def cautionCodes : List String :=
  ["mission_waypoint_below_home", "mission_no_home_relative_alt", "mission_first_waypoint_too_far",
    "mission_waypoints_too_far", "mission_gate_too_close"]

theorem isCaution_iff (f : Finding) : f.isCaution = true ↔ f.code ∈ cautionCodes := by
  cases f <;> simp [isCaution, code, cautionCodes]

theorem cites_of_number {f : Finding} {index count : Nat} (hi : index < count) (h : f.item = some (number index)) :
    f.Cites count := by
  intro n hn
  obtain rfl : number index = n := Option.some.inj (h.symm.trans hn)
  simp only [number]
  omega

theorem cites_of_none {f : Finding} {count : Nat} (h : f.item = none) : f.Cites count := by
  intro n hn
  simp [h] at hn

theorem rejects_of_number {f : Finding} {index count : Nat} (hi : index < count) (hs : f.severity = .error)
    (h : f.item = some (number index)) : f.Rejects count :=
  ⟨by simp [hs], cites_of_number hi h⟩

theorem rejects_of_none {f : Finding} {count : Nat} (hs : f.severity ≠ .warning) (h : f.item = none) :
    f.Rejects count := ⟨hs, cites_of_none h⟩

theorem storageFailure_rejects (count : Nat) (reading : Bool) : (storageFailure reading).Rejects count :=
  rejects_of_none (by simp [severity]) rfl

end Finding

namespace Outcome

structure Reports (count : Nat) (o : Outcome) (warnings : List Finding) (rejection : Option Finding) : Prop where
  findings : o.findings = warnings ++ rejection.toList
  passed : o.passed = rejection.isNone
  warnings : ∀ f ∈ warnings, ∃ index < count, f = .belowHome index
  rejects : ∀ f ∈ rejection, f.Rejects count

namespace Reports

variable {count : Nat} {o : Outcome} {warnings : List Finding} {rejection : Option Finding} {f : Finding}

theorem severity_of_warning (h : o.Reports count warnings rejection) (hf : f ∈ warnings) : f.severity = .warning := by
  obtain ⟨index, -, rfl⟩ := h.warnings f hf
  rfl

theorem mem_or_rejects (h : o.Reports count warnings rejection) (hf : f ∈ o.findings) :
    f ∈ warnings ∨ f.Rejects count := by
  rw [h.findings] at hf
  rcases List.mem_append.mp hf with hf | hf
  · exact .inl hf
  · exact .inr (h.rejects f (Option.mem_toList.mp hf))

theorem cites (h : o.Reports count warnings rejection) (hf : f ∈ o.findings) : f.Cites count := by
  rcases h.mem_or_rejects hf with hf | rejects
  · obtain ⟨index, hi, rfl⟩ := h.warnings f hf
    exact Finding.cites_of_number hi rfl
  · exact rejects.cites

end Reports

/-- A check that warns of nothing: it says what it failed for and raises the warning flag for cautions alone. -/
def Plain (count : Nat) (o : Outcome) : Prop :=
  ∃ rejection, o.Reports count [] rejection ∧ o.warning = rejection.any Finding.isCaution

theorem plain_pass (count : Nat) (flags : Flags) : (pass flags).Plain count :=
  ⟨none, ⟨rfl, rfl, by simp, by simp⟩, rfl⟩

theorem plain_fail {count : Nat} {f : Finding} (flags : Flags) (hf : f.Rejects count) (h : f.isCaution = false) :
    (fail flags f).Plain count :=
  ⟨some f, ⟨rfl, rfl, by simp, by simpa using hf⟩, by simp [fail, h]⟩

theorem plain_withWarning {count : Nat} {f : Finding} (flags : Flags) (hf : f.Rejects count)
    (h : f.isCaution = true) : (fail flags f).withWarning.Plain count :=
  ⟨some f, ⟨rfl, rfl, by simp, by simpa using hf⟩, by simp [fail, withWarning, h]⟩

theorem plain_unreadable (count : Nat) (flags : Flags) (reason : String) (reading : Bool) :
    (unreadable flags reason reading).Plain count := by
  have hf := Finding.storageFailure_rejects count reading
  exact ⟨some (.storageFailure reading), ⟨rfl, rfl, by simp, by simpa using hf⟩, rfl⟩

structure Unread (o : Outcome) : Prop where
  passed : o.passed = false
  findings : ∃ warnings reading, o.findings = warnings ++ [.storageFailure reading] ∧
    ∀ f ∈ warnings, ∃ index, f = .belowHome index

theorem unread_unreadable (flags : Flags) (reason : String) (reading : Bool) :
    (unreadable flags reason reading).Unread := ⟨rfl, [], reading, rfl, by simp⟩

end Outcome

end Preflight
