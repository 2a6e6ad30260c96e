import Preflight.Proofs.Check.Counted
import Preflight.Proofs.Check.Listed
import Preflight.Proofs.Check.Report

namespace Preflight.Check

variable {σ τ : Type} {ctx : Context σ} {flags : Flags} {outcome : Outcome}

def closeTakeoff (flags : Flags) : Progress TakeoffScan (Bool × Finding) → Outcome
  | .going seen =>
    let flags := { flags with takeoff := seen.takeoff }
    match seen.first with
    | some index => if seen.prepared then .pass flags else .fail flags (.takeoffNotFirst index)
    | none => .pass flags
  | .stopped (seen, finding) => .fail { flags with takeoff := seen } finding
  | .unreadable reason seen => .unreadable { flags with takeoff := seen.takeoff } reason false

theorem takeoff_eq (ctx : Context σ) (flags : Flags) :
    takeoff ctx flags = ctx.settle (.ok none) { takeoff := flags.takeoff : TakeoffScan }
      (fun index item seen => .ofExcept (.ok (visitTakeoff ctx.vehicle index item seen))) (closeTakeoff flags) :=
  bind_congr fun progress => by
    rcases progress with ⟨_, _ | _, _⟩ | _ | _ <;> rfl

def TakeoffScan.Within (count : Nat) (seen : TakeoffScan) : Prop := ∀ index ∈ seen.first, index < count

theorem visitTakeoff_keeps {vehicle : Vehicle} {index count : Nat} (hi : index < count) (item : Item)
    {seen : TakeoffScan} (h : seen.Within index) :
    (visitTakeoff vehicle index item seen).Keeps TakeoffScan.Within
      (fun result : Bool × Finding => result.2.Rejects count ∧ result.2.isCaution = false) index := by
  unfold visitTakeoff
  split
  · intro first hfirst
    exact Nat.lt_succ_of_lt (h first hfirst)
  · split
    · exact ⟨Finding.rejects_of_number hi rfl rfl, rfl⟩
    · rintro first ⟨⟩
      cases hseen : seen.first with
      | none => simp
      | some found => simpa using Nat.lt_succ_of_lt (h found hseen)

theorem takeoff_plain {store after : σ} (h : (takeoff ctx flags).run store = (.ok outcome, after)) :
    outcome.Plain ctx.count := by
  rw [takeoff_eq] at h
  refine settle_obeys (I := TakeoffScan.Within)
    (P := fun result : Bool × Finding => result.2.Rejects ctx.count ∧ result.2.isCaution = false) nofun
    (by simp [TakeoffScan.Within]) ?_ ?_ h
  · intro index hi item seen store progress after hseen hvisit
    obtain rfl := Except.ok.inj (Prod.mk.inj hvisit).1
    exact visitTakeoff_keeps hi item hseen
  · rintro (seen | ⟨seen, finding⟩ | ⟨reason, seen⟩) obeys
    · dsimp only [closeTakeoff]
      split
      next index hfirst =>
        split
        · exact Outcome.plain_pass ctx.count _
        · exact Outcome.plain_fail _ (Finding.rejects_of_number (obeys index hfirst) rfl rfl) rfl
      next => exact Outcome.plain_pass ctx.count _
    · exact Outcome.plain_fail _ obeys.1 obeys.2
    · exact Outcome.plain_unreadable ctx.count _ reason false

theorem takeoff_agree {R : σ → τ → Prop} {read : Nat → Reads τ Item}
    (reads : ∀ index < ctx.count, Reads.Agree R (ctx.read index) (read index)) :
    Reads.Agree R (takeoff ctx flags) (takeoff (ctx.withRead read) flags) := by
  rw [takeoff_eq, takeoff_eq]
  exact settle_agree reads _ _ (fun _ _ _ _ => .ofExcept _) _

theorem takeoff_catches : (takeoff ctx flags).Catches := by
  rw [takeoff_eq]
  exact settle_catches ctx _ _ _ nofun

theorem takeoff_unread {store after : σ × Nat} {answer : Except Fault Outcome}
    (h : (takeoff ctx.counted flags).run store = (answer, after)) (hfailed : store.2 < after.2) :
    ∃ o, answer = .ok o ∧ o.Unread := by
  rw [takeoff_eq] at h
  obtain ⟨reason, seen, rfl⟩ := settle_counted (fun _ _ _ => Reads.honest_ofExcept _) h hfailed
  exact ⟨_, rfl, Outcome.unread_unreadable _ reason false⟩

theorem takeoff_flags {store after : σ} (h : (takeoff ctx flags).run store = (.ok outcome, after)) :
    outcome.flags.landing = flags.landing := by
  rw [takeoff_eq] at h
  rcases settle_ok h with ⟨decided, -⟩ | ⟨-, progress, -, rfl⟩
  · simp at decided
  · rcases progress with seen | result | reason
    · dsimp only [closeTakeoff]
      split
      · split <;> rfl
      · rfl
    · rfl
    · rfl

theorem visitTakeoff_going {vehicle : Vehicle} {index : Nat} {item : Item} {seen next : TakeoffScan}
    (h : visitTakeoff vehicle index item seen = .going next) :
    next.takeoff = (seen.takeoff || isTakeoff item) ∧ (isTakeoff item = true → isTooLow vehicle item = false) := by
  unfold visitTakeoff at h
  split at h
  next hother =>
    obtain rfl := Progress.going.inj h
    simp_all
  next htakeoff =>
    split at h
    · exact nomatch h
    next hhigh =>
      obtain rfl := Progress.going.inj h
      simp_all

def TakeoffScan.Describes (vehicle : Vehicle) (takesOff : Bool) (before : List Item) (seen : TakeoffScan) : Prop :=
  seen.takeoff = (takesOff || before.any isTakeoff) ∧
    ∀ item ∈ before, isTakeoff item = true → isTooLow vehicle item = false

theorem describes_takeoff {vehicle : Vehicle} {takesOff : Bool} {index : Nat} {before : List Item} {item : Item}
    {seen next : TakeoffScan} (h : seen.Describes vehicle takesOff before)
    (hvisit : visitTakeoff vehicle index item seen = .going next) :
    next.Describes vehicle takesOff (before ++ [item]) := by
  obtain ⟨taken, high⟩ := h
  obtain ⟨takes, lifts⟩ := visitTakeoff_going hvisit
  constructor
  · rw [takes, taken]
    simp [Bool.or_assoc]
  · intro other hother
    rcases List.mem_append.mp hother with hother | hother
    · exact high other hother
    · obtain rfl := List.mem_singleton.mp hother
      exact lifts

end Preflight.Check
