import Preflight.Proofs.Check.Counted
import Preflight.Proofs.Check.Listed
import Preflight.Proofs.Check.Report

namespace Preflight

namespace Geofence

def ceiling : Geofence → Option Float
  | unlimited => none
  | areas fence => fence.ceiling

theorem isUsable_of_ceiling {fence : Geofence} {ceiling : Float} (h : fence.ceiling = some ceiling) :
    fence.isUsable = true := by
  cases fence with
  | unlimited => exact nomatch h
  | areas fence =>
    change fence.ceiling = some ceiling at h
    simp [isUsable, AreaFence.isUsable, h]

theorem below_of_check {fence : Geofence} {ceiling : Float} {item : Item} (h : fence.ceiling = some ceiling)
    (hinside : fence.check item = .ok true) : ¬ ceiling < item.altitude := by
  cases fence with
  | unlimited => exact nomatch h
  | areas fence =>
    change fence.ceiling = some ceiling at h
    intro above
    simp [check, AreaFence.check, AreaFence.exceedsCeiling, h, above, pure, Except.pure] at hinside

end Geofence

namespace Check

variable {σ τ : Type} {ctx : Context σ} {flags : Flags} {outcome : Outcome}

def whenUnfenced (ctx : Context σ) (flags : Flags) : Option Outcome :=
  if ctx.fence.isHomeRequired && !ctx.vehicle.home.known then some (.fail flags (.fenceWithoutHome none))
  else if !ctx.fence.isUsable then some (.pass flags) else none

theorem fence_eq (ctx : Context σ) (flags : Flags) :
    fence ctx flags = ctx.settle (.ok (whenUnfenced ctx flags)) ()
      (fun index item seen => .ofExcept (stopAt seen <$> fenceBreach ctx index item))
      fun
        | .going _ => .pass flags
        | .stopped finding => .fail flags finding
        | .unreadable reason _ => .unreadable flags reason false := by
  unfold fence whenUnfenced
  split
  · rfl
  · split
    · rfl
    · exact bind_congr fun progress => by cases progress <;> rfl

theorem whenUnfenced_cases (h : whenUnfenced ctx flags = some outcome) :
    outcome = .fail flags (.fenceWithoutHome none) ∨ outcome = .pass flags ∧ ctx.fence.isUsable = false := by
  unfold whenUnfenced at h
  split at h
  · exact .inl (Option.some.inj h).symm
  · split at h
    next unusable => exact .inr ⟨(Option.some.inj h).symm, by simpa using unusable⟩
    next => cases h

theorem whenUnfenced_some (count : Nat) (h : whenUnfenced ctx flags = some outcome) :
    outcome.Plain count ∧ outcome.flags = flags := by
  rcases whenUnfenced_cases h with rfl | ⟨rfl, -⟩
  · exact ⟨Outcome.plain_fail flags (Finding.rejects_of_none (by simp [Finding.severity]) rfl) rfl, rfl⟩
  · exact ⟨Outcome.plain_pass count flags, rfl⟩

theorem whenUnfenced_passed (h : whenUnfenced ctx flags = some outcome) (hpassed : outcome.passed = true) :
    ctx.fence.isUsable = false := by
  rcases whenUnfenced_cases h with rfl | ⟨-, unusable⟩
  · exact nomatch hpassed
  · exact unusable

theorem fenceBreach_eq (ctx : Context σ) (index : Nat) (item : Item) :
    fenceBreach ctx index item =
      if item.relative && !ctx.vehicle.home.known then .ok (some (.fenceWithoutHome (some index)))
      else if ctx.hasPosition (item.toAmsl ctx.vehicle.home.altitude) then
        (fun inside => if inside then none else some (.outsideFence index)) <$>
          ctx.fence.check (item.toAmsl ctx.vehicle.home.altitude)
      else .ok none := by
  unfold fenceBreach
  split
  · rfl
  · dsimp only
    split
    · rcases ctx.fence.check (item.toAmsl ctx.vehicle.home.altitude) with fault | _ | _ <;> rfl
    · rfl

theorem fenceBreach_some {index : Nat} {item : Item} {finding : Finding}
    (h : fenceBreach ctx index item = .ok (some finding)) :
    finding = .fenceWithoutHome (some index) ∧ item.relative = true ∨
      finding = .outsideFence index ∧ ctx.fence.check (item.toAmsl ctx.vehicle.home.altitude) = .ok false := by
  rw [fenceBreach_eq] at h
  split at h
  next homeless =>
    exact .inl ⟨(Option.some.inj (Except.ok.inj h)).symm, (Bool.and_eq_true_iff.mp homeless).1⟩
  next =>
    split at h
    · obtain ⟨_ | _, outside, h⟩ := Fault.map_ok h
      · exact .inr ⟨(Option.some.inj h).symm, outside⟩
      · cases h
    · cases h

theorem fenceBreach_none {index : Nat} {item : Item} (h : fenceBreach ctx index item = .ok none)
    (hposition : ctx.hasPosition (item.toAmsl ctx.vehicle.home.altitude) = true) :
    ctx.fence.check (item.toAmsl ctx.vehicle.home.altitude) = .ok true := by
  unfold fenceBreach at h
  simp only [hposition, bind, Except.bind, pure, Except.pure] at h
  grind

theorem fence_plain {store after : σ} (h : (fence ctx flags).run store = (.ok outcome, after)) :
    outcome.Plain ctx.count := by
  rw [fence_eq] at h
  refine settle_obeys (I := fun _ _ => True)
    (P := fun finding : Finding => finding.Rejects ctx.count ∧ finding.isCaution = false)
    (fun outcome decided => (whenUnfenced_some ctx.count (Except.ok.inj decided)).1) trivial ?_ ?_ h
  · intro index hi item seen store progress after _ hvisit
    obtain ⟨finding, hfinding, rfl⟩ := Fault.map_ok (Prod.mk.inj hvisit).1
    cases finding with
    | none => trivial
    | some finding =>
      rcases fenceBreach_some hfinding with ⟨rfl, -⟩ | ⟨rfl, -⟩
      all_goals exact ⟨Finding.rejects_of_number hi rfl rfl, rfl⟩
  · rintro (_ | finding | reason) reported
    · exact Outcome.plain_pass ctx.count flags
    · exact Outcome.plain_fail flags reported.1 reported.2
    · exact Outcome.plain_unreadable ctx.count flags reason false

theorem fence_agree {R : σ → τ → Prop} {read : Nat → Reads τ Item}
    (reads : ∀ index < ctx.count, Reads.Agree R (ctx.read index) (read index)) :
    Reads.Agree R (fence ctx flags) (fence (ctx.withRead read) flags) := by
  rw [fence_eq, fence_eq]
  exact settle_agree reads _ _ (fun _ _ _ _ => .ofExcept _) _

theorem fence_catches : (fence ctx flags).Catches := by
  rw [fence_eq]
  exact settle_catches ctx _ _ _ nofun

theorem fence_unread {store after : σ × Nat} {answer : Except Fault Outcome}
    (h : (fence ctx.counted flags).run store = (answer, after)) (hfailed : store.2 < after.2) :
    ∃ o, answer = .ok o ∧ o.Unread := by
  rw [fence_eq] at h
  obtain ⟨reason, seen, rfl⟩ := settle_counted (fun _ _ _ => Reads.honest_ofExcept _) h hfailed
  exact ⟨_, rfl, Outcome.unread_unreadable flags reason false⟩

theorem fence_flags {store after : σ} (h : (fence ctx flags).run store = (.ok outcome, after)) :
    outcome.flags = flags := by
  rw [fence_eq] at h
  exact settle_flags (fun outcome decided => (whenUnfenced_some 0 (Except.ok.inj decided)).2)
    (fun progress => by cases progress <;> rfl) h

theorem fence_onList {id : String} {items : List Item} (hcount : ctx.count = items.length)
    (h : (fence (ctx.onList id items) flags).run () = (.ok outcome, ())) (hpassed : outcome.passed = true)
    {ceiling : Float} (hceiling : ctx.fence.ceiling = some ceiling) :
    ∀ item ∈ items, ctx.hasPosition (item.toAmsl ctx.vehicle.home.altitude) = true →
      ¬ ceiling < item.altitudeAmsl ctx.vehicle.home.altitude := by
  rw [fence_eq] at h
  rcases settle_onList hcount h with hbefore | ⟨-, progress, rfl, hwalk⟩
  · have unusable := whenUnfenced_passed (Except.ok.inj hbefore) hpassed
    have usable := Geofence.isUsable_of_ceiling hceiling
    exact absurd (unusable.symm.trans usable) nofun
  · cases progress with
    | going seen =>
      intro item hitem hposition
      obtain ⟨index, hfound⟩ := List.mem_iff_getElem?.mp hitem
      have inside : fenceBreach ctx index item = .ok none := walk_stopAt.mp hwalk index item hfound
      rw [← Item.altitude_toAmsl]
      exact Geofence.below_of_check hceiling (fenceBreach_none inside hposition)
    | _ => simp [Outcome.fail, Outcome.unreadable] at hpassed

end Check

end Preflight
