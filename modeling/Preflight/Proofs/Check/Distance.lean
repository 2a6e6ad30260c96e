import Mathlib.Data.List.Chain
import Preflight.Proofs.Check.Counted
import Preflight.Proofs.Check.Listed
import Preflight.Proofs.Check.Report

namespace Preflight.Check

variable {σ τ : Type} {ctx : Context σ} {limit : Limit} {flags : Flags} {outcome : Outcome}

def whenOff (limit : Limit) (flags : Flags) : Except Fault (Option Outcome) :=
  (fun off => if off then some (.pass flags) else none) <$> limit.isOff

theorem whenOff_some (h : whenOff limit flags = .ok (some outcome)) : outcome = .pass flags := by
  obtain ⟨off, -, decided⟩ := Fault.map_ok h
  cases off with
  | false => simp at decided
  | true => simpa using decided.symm

theorem whenOff_on (hon : limit.isOff = .ok false) : whenOff limit flags = .ok none := by
  rw [whenOff, hon]
  rfl

theorem whenOff_catches (reason : String) : whenOff limit flags ≠ .error (.storage reason) := by
  cases limit <;> nofun

theorem measureFirst_stopped {index : Nat} {item : Item} {finding : Finding}
    (h : measureFirst ctx limit index item = .ok (.stopped (some finding))) :
    ctx.hasPosition item = true ∧ ∃ distance most, finding = .firstTooFar index distance most := by
  unfold measureFirst at h
  simp only [bind, Except.bind, pure, Except.pure] at h
  grind

def closeFirst (flags : Flags) : Progress Unit (Option Finding) → Outcome
  | .going _ | .stopped none => .pass flags
  | .stopped (some finding) => (Outcome.fail flags finding).withWarning
  | .unreadable reason _ => .unreadable flags reason true

theorem firstDistance_eq (limit : Limit) (ctx : Context σ) (flags : Flags) :
    firstDistance limit ctx flags = ctx.settle (whenOff limit flags) ()
      (fun index item _ => .ofExcept (measureFirst ctx limit index item))
      (closeFirst flags) := by
  unfold firstDistance whenOff
  rcases limit.isOff with fault | _ | _
  · rfl
  · change ctx.scanItems () _ >>= _ = ctx.scan () _ >>= _
    exact bind_congr fun progress => by rcases progress with _ | (_ | _) | _ <;> rfl
  · rfl

theorem first_eq (limit : Limit) (ctx : Context σ) (flags : Flags) :
    Pass.first limit ctx flags = ctx.settle
      (if ctx.vehicle.home.altitudeKnown then whenOff limit flags else .ok (some (.fail flags .noPositionLock))) ()
      (fun index item _ => .ofExcept (measureFirst ctx limit index item))
      (closeFirst flags) := by
  unfold Pass.first
  split
  · exact firstDistance_eq limit ctx flags
  · rfl

theorem before_first (count : Nat)
    (h : (if ctx.vehicle.home.altitudeKnown then whenOff limit flags
      else .ok (some (.fail flags .noPositionLock))) = .ok (some outcome)) :
    outcome.Plain count ∧ outcome.flags = flags := by
  split at h
  · obtain rfl := whenOff_some h
    exact ⟨Outcome.plain_pass count flags, rfl⟩
  · obtain rfl : Outcome.fail flags .noPositionLock = outcome := by simpa using h
    exact ⟨Outcome.plain_fail flags (Finding.rejects_of_none (by simp [Finding.severity]) rfl) rfl, rfl⟩

theorem first_plain {store after : σ} (h : (Pass.first limit ctx flags).run store = (.ok outcome, after)) :
    outcome.Plain ctx.count := by
  rw [first_eq] at h
  refine settle_obeys (I := fun _ _ => True)
    (P := fun result : Option Finding => ∀ finding ∈ result, finding.Rejects ctx.count ∧ finding.isCaution = true)
    (fun _ decided => (before_first ctx.count decided).1) trivial ?_ ?_ h
  · intro index hi item seen store progress after _ hvisit
    have measured := (Prod.mk.inj hvisit).1
    rcases progress with next | (_ | finding) | reason
    · trivial
    · nofun
    · rintro finding ⟨⟩
      obtain ⟨-, distance, most, rfl⟩ := measureFirst_stopped measured
      exact ⟨Finding.rejects_of_number hi rfl rfl, rfl⟩
    · trivial
  · rintro (_ | (_ | finding) | reason) reported
    · exact Outcome.plain_pass ctx.count flags
    · exact Outcome.plain_pass ctx.count flags
    · obtain ⟨rejects, caution⟩ := reported finding rfl
      exact Outcome.plain_withWarning flags rejects caution
    · exact Outcome.plain_unreadable ctx.count flags reason true

theorem first_agree {R : σ → τ → Prop} {read : Nat → Reads τ Item}
    (reads : ∀ index < ctx.count, Reads.Agree R (ctx.read index) (read index)) :
    Reads.Agree R (Pass.first limit ctx flags) (Pass.first limit (ctx.withRead read) flags) := by
  rw [first_eq, first_eq]
  exact settle_agree reads _ _ (fun _ _ _ _ => .ofExcept _) _

theorem first_catches : (Pass.first limit ctx flags).Catches := by
  rw [first_eq]
  apply settle_catches
  intro reason
  split
  · exact whenOff_catches reason
  · nofun

theorem first_unread {store after : σ × Nat} {answer : Except Fault Outcome}
    (h : (Pass.first limit ctx.counted flags).run store = (answer, after)) (hfailed : store.2 < after.2) :
    ∃ o, answer = .ok o ∧ o.Unread := by
  rw [first_eq] at h
  obtain ⟨reason, seen, rfl⟩ := settle_counted (fun _ _ _ => Reads.honest_ofExcept _) h hfailed
  exact ⟨_, rfl, Outcome.unread_unreadable flags reason true⟩

theorem first_flags {store after : σ} (h : (Pass.first limit ctx flags).run store = (.ok outcome, after)) :
    outcome.flags = flags := by
  rw [first_eq] at h
  refine settle_flags (fun _ decided => (before_first 0 decided).2) (fun progress => ?_) h
  rcases progress with _ | (_ | _) | _ <;> rfl

def closeBetween (flags : Flags) : Progress (Option Item) Finding → Outcome
  | .going _ => .pass flags
  | .stopped finding => (Outcome.fail flags finding).withWarning
  | .unreadable reason _ => .unreadable flags reason true

theorem betweenDistance_eq (limit : Limit) (ctx : Context σ) (flags : Flags) :
    betweenDistance limit ctx flags = ctx.settle (whenOff limit flags) none
      (fun index item last => .ofExcept (measureNeighbour ctx limit index item last))
      (closeBetween flags) := by
  unfold betweenDistance whenOff
  rcases limit.isOff with fault | _ | _
  · rfl
  · change ctx.scanItems none _ >>= _ = ctx.scan none _ >>= _
    exact bind_congr fun progress => by cases progress <;> rfl
  · rfl

theorem neighbourFault_some {index : Nat} {last item : Item} {finding : Finding}
    (h : neighbourFault ctx limit index last item = .ok (some finding)) :
    (∃ distance most, finding = .tooFarApart index distance most) ∨
      ∃ distance least, finding = .gateTooClose index distance least := by
  obtain ⟨distance, -, h⟩ := Fault.bind_ok h
  simp only [bind, Except.bind, pure, Except.pure] at h
  grind

theorem neighbourFault_none {index : Nat} {last item : Item} (h : neighbourFault ctx limit index last item = .ok none) :
    ∃ distance, ctx.distance item.lat item.lon last.lat last.lon = .ok distance ∧ limit.isBelow distance = false := by
  obtain ⟨distance, measured, h⟩ := Fault.bind_ok h
  refine ⟨distance, measured, ?_⟩
  simp only [bind, Except.bind, pure, Except.pure] at h
  grind

theorem measureNeighbour_eq (ctx : Context σ) (limit : Limit) (index : Nat) (item : Item) (last : Option Item) :
    measureNeighbour ctx limit index item last =
      if !ctx.hasPosition item then .ok (.going last)
      else match last with
        | none => .ok (.going (some item))
        | some before => stopAt (some item) <$> neighbourFault ctx limit index before item := by
  unfold measureNeighbour
  split
  · rfl
  · cases last with
    | none => rfl
    | some before => cases neighbourFault ctx limit index before item <;> rfl

theorem measureNeighbour_stopped {index : Nat} {item : Item} {last : Option Item} {finding : Finding}
    (h : measureNeighbour ctx limit index item last = .ok (.stopped finding)) :
    ctx.hasPosition item = true ∧ ∃ before, neighbourFault ctx limit index before item = .ok (some finding) := by
  unfold measureNeighbour at h
  split at h
  · exact nomatch h
  next located =>
    refine ⟨by simpa using located, ?_⟩
    cases last with
    | none => exact nomatch h
    | some before =>
      obtain ⟨result, hfault, h⟩ := Fault.bind_ok h
      cases result with
      | none => exact nomatch h
      | some found =>
        obtain rfl : found = finding := by simpa [stopAt, pure, Except.pure] using h
        exact ⟨before, hfault⟩

theorem measureNeighbour_going {index : Nat} {item : Item} {last next : Option Item}
    (h : measureNeighbour ctx limit index item last = .ok (.going next)) :
    if ctx.hasPosition item then
      next = some item ∧ ∀ before ∈ last, neighbourFault ctx limit index before item = .ok none
    else next = last := by
  unfold measureNeighbour at h
  split at h
  next hposition =>
    obtain rfl : last = next := by simpa [pure, Except.pure] using h
    rw [if_neg (by simpa using hposition)]
  next hposition =>
    rw [if_pos (by simpa using hposition)]
    cases last with
    | none =>
      obtain rfl : some item = next := by simpa [pure, Except.pure] using h
      simp
    | some before =>
      obtain ⟨result, hfault, h⟩ := Fault.bind_ok h
      cases result with
      | none =>
        obtain rfl : some item = next := by simpa [stopAt, pure, Except.pure] using h
        simpa using hfault
      | some found => exact nomatch h

theorem betweenDistance_plain {store after : σ}
    (h : (betweenDistance limit ctx flags).run store = (.ok outcome, after)) : outcome.Plain ctx.count := by
  rw [betweenDistance_eq] at h
  refine settle_obeys (I := fun _ _ => True)
    (P := fun finding : Finding => finding.Rejects ctx.count ∧ finding.isCaution = true) ?_ trivial ?_ ?_ h
  · intro outcome decided
    obtain rfl := whenOff_some decided
    exact Outcome.plain_pass ctx.count flags
  · intro index hi item last store progress after _ hvisit
    rcases progress with next | finding | reason
    · trivial
    · obtain ⟨-, before, hfault⟩ := measureNeighbour_stopped (Prod.mk.inj hvisit).1
      rcases neighbourFault_some hfault with ⟨distance, most, rfl⟩ | ⟨distance, least, rfl⟩
      all_goals exact ⟨Finding.rejects_of_number hi rfl rfl, rfl⟩
    · trivial
  · rintro (_ | finding | reason) reported
    · exact Outcome.plain_pass ctx.count flags
    · exact Outcome.plain_withWarning flags reported.1 reported.2
    · exact Outcome.plain_unreadable ctx.count flags reason true

theorem betweenDistance_agree {R : σ → τ → Prop} {read : Nat → Reads τ Item}
    (reads : ∀ index < ctx.count, Reads.Agree R (ctx.read index) (read index)) :
    Reads.Agree R (betweenDistance limit ctx flags) (betweenDistance limit (ctx.withRead read) flags) := by
  rw [betweenDistance_eq, betweenDistance_eq]
  exact settle_agree reads _ _ (fun _ _ _ _ => .ofExcept _) _

theorem betweenDistance_catches : (betweenDistance limit ctx flags).Catches := by
  rw [betweenDistance_eq]
  exact settle_catches ctx _ _ _ whenOff_catches

theorem betweenDistance_unread {store after : σ × Nat} {answer : Except Fault Outcome}
    (h : (betweenDistance limit ctx.counted flags).run store = (answer, after)) (hfailed : store.2 < after.2) :
    ∃ o, answer = .ok o ∧ o.Unread := by
  rw [betweenDistance_eq] at h
  obtain ⟨reason, seen, rfl⟩ := settle_counted (fun _ _ _ => Reads.honest_ofExcept _) h hfailed
  exact ⟨_, rfl, Outcome.unread_unreadable flags reason true⟩

theorem betweenDistance_flags {store after : σ}
    (h : (betweenDistance limit ctx flags).run store = (.ok outcome, after)) : outcome.flags = flags := by
  rw [betweenDistance_eq] at h
  refine settle_flags (fun outcome decided => ?_) (fun progress => by cases progress <;> rfl) h
  rw [whenOff_some decided]
  rfl

theorem filter_concat_of_position {before : List Item} {item : Item} (hposition : ctx.hasPosition item = true) :
    (before ++ [item]).filter ctx.hasPosition = before.filter ctx.hasPosition ++ [item] := by
  simp [List.filter_append, hposition]

theorem filter_concat_of_lost {before : List Item} {item : Item} (hposition : ctx.hasPosition item = false) :
    (before ++ [item]).filter ctx.hasPosition = before.filter ctx.hasPosition := by
  simp [List.filter_append, hposition]

theorem isChain_of_going {index : Nat} {before : List Item} {item : Item} {next : Option Item}
    (chain : (before.filter ctx.hasPosition).IsChain fun last item =>
      ∃ index, neighbourFault ctx limit index last item = .ok none)
    (h : measureNeighbour ctx limit index item (before.filter ctx.hasPosition).getLast? = .ok (.going next)) :
    next = ((before ++ [item]).filter ctx.hasPosition).getLast? ∧
      ((before ++ [item]).filter ctx.hasPosition).IsChain fun last item =>
        ∃ index, neighbourFault ctx limit index last item = .ok none := by
  have going := measureNeighbour_going h
  split at going
  next hposition =>
    obtain ⟨rfl, near⟩ := going
    rw [filter_concat_of_position hposition, List.isChain_append]
    refine ⟨by simp, chain, .singleton item, ?_⟩
    intro last hlast other hother
    obtain rfl : item = other := by simpa using hother
    exact ⟨index, near last hlast⟩
  next hposition =>
    rw [filter_concat_of_lost (by simpa using hposition), going]
    exact ⟨rfl, chain⟩

theorem isChain_of_walk {items : List Item} {last : Option Item}
    (h : walk (measureNeighbour ctx limit) 0 items none = .ok (.going last)) :
    last = (items.filter ctx.hasPosition).getLast? ∧
      (items.filter ctx.hasPosition).IsChain fun last item =>
        ∃ index, neighbourFault ctx limit index last item = .ok none := by
  refine walk_going (I := fun before last => last = (before.filter ctx.hasPosition).getLast? ∧
    (before.filter ctx.hasPosition).IsChain fun last item =>
      ∃ index, neighbourFault ctx limit index last item = .ok none) ?_ (by simp) h
  rintro before item after last next - ⟨rfl, chain⟩ hvisit
  exact isChain_of_going chain hvisit

theorem betweenDistance_onList {id : String} {items : List Item} (hcount : ctx.count = items.length)
    (h : (betweenDistance limit (ctx.onList id items) flags).run () = (.ok outcome, ()))
    (hpassed : outcome.passed = true) (hon : limit.isOff = .ok false) :
    (items.filter ctx.hasPosition).IsChain fun last item =>
      ∃ index, neighbourFault ctx limit index last item = .ok none := by
  rw [betweenDistance_eq] at h
  rcases settle_onList hcount h with hbefore | ⟨-, progress, rfl, hwalk⟩
  · simp [whenOff_on hon] at hbefore
  · cases progress with
    | going seen => exact (isChain_of_walk hwalk).2
    | _ => simp [closeBetween, Outcome.fail, Outcome.withWarning, Outcome.unreadable] at hpassed

end Preflight.Check
