import Preflight.Proofs.Check.Distance
import Preflight.Proofs.Double.Units

namespace Preflight

variable {σ α β : Type} {tight loose : Limit} {distance : Float}

namespace Limit

open Double (place placeOf)

def atMost : Limit → Limit → Bool
  | meters x, meters y => x ≤ y
  | whole n, whole k => n ≤ k
  | meters x, whole n => (Double.compareWhole x n).any (· != .gt)
  | whole n, meters x => (Double.compareWhole x n).any (· != .lt)
  | _, _ => false

def LoosensTo (tight loose : Limit) : Prop :=
  loose.isOff = .ok true ∨ tight.isOff = .ok false ∧ tight.atMost loose = true

def IsNumber : Limit → Prop
  | meters x => x.isNaN = false
  | whole _ => True
  | unusable _ => False

def reach : Limit → Double.Place
  | meters x => place x
  | whole n => placeOf n
  | unusable _ => ⊥

theorem compareWhole_any {x : Float} {n : Int} {o : Ordering} (h : (Double.compareWhole x n).any (· != o) = true) :
    x.isNaN = false ∧ Double.compareWhole x n ≠ some o := by
  have number := Double.compareWhole_eq_none x n
  cases hcompare : Double.compareWhole x n with
  | none =>
    rw [hcompare] at h
    exact nomatch h
  | some found =>
    rw [hcompare] at h number
    refine ⟨Bool.eq_false_iff.mpr (mt number.mpr (Option.some_ne_none found)), ?_⟩
    rintro ⟨⟩
    simp at h

theorem reach_le_of_atMost (h : tight.atMost loose = true) :
    tight.IsNumber ∧ loose.IsNumber ∧ tight.reach ≤ loose.reach := by
  rcases tight with x | n | kind <;> rcases loose with y | k | kind'
  case meters.meters =>
    have le : x ≤ y := of_decide_eq_true h
    obtain ⟨hx, hy⟩ := Double.number_of_le le
    exact ⟨hx, hy, (Double.le_iff_place hx hy).mp le⟩
  case meters.whole =>
    obtain ⟨hx, notAbove⟩ := compareWhole_any h
    exact ⟨hx, trivial, not_lt.mp (mt (Double.compareWhole_place hx k).2.mpr notAbove)⟩
  case whole.meters =>
    obtain ⟨hy, notBelow⟩ := compareWhole_any h
    exact ⟨trivial, hy, not_lt.mp (mt (Double.compareWhole_place hy n).1.mpr notBelow)⟩
  case whole.whole =>
    have le : n ≤ k := of_decide_eq_true h
    refine ⟨trivial, trivial, not_lt.mp ?_⟩
    intro above
    have := Int.lt_of_mul_lt_mul_right (Double.Place.of_lt_of.mp above) (Int.natCast_nonneg _)
    omega
  all_goals exact nomatch h

theorem isAbove_iff {limit : Limit} (hlimit : limit.IsNumber) (hdistance : distance.isNaN = false) :
    limit.isAbove distance = true ↔ place distance < limit.reach := by
  cases limit with
  | meters x =>
    exact decide_eq_true_iff.trans (Double.lt_iff_place hdistance hlimit)
  | whole n => exact beq_iff_eq.trans (Double.compareWhole_place hdistance n).1
  | unusable kind => exact hlimit.elim

theorem isBelow_iff {limit : Limit} (hlimit : limit.IsNumber) (hdistance : distance.isNaN = false) :
    limit.isBelow distance = true ↔ limit.reach < place distance := by
  cases limit with
  | meters x =>
    exact decide_eq_true_iff.trans (Double.lt_iff_place hlimit hdistance)
  | whole n => exact beq_iff_eq.trans (Double.compareWhole_place hdistance n).2
  | unusable kind => exact hlimit.elim

theorem isOff_of_isNumber {limit : Limit} (h : limit.IsNumber) : ∃ off, limit.isOff = .ok off := by
  cases limit with
  | unusable kind => exact h.elim
  | _ => exact ⟨_, rfl⟩

theorem undefined_within (hdistance : distance.isNaN = true) (limit : Limit) :
    limit.isAbove distance = false ∧ limit.isBelow distance = false := by
  cases limit with
  | meters x =>
    have below : ¬ distance < x := fun lt => nomatch hdistance.symm.trans (Double.number_of_lt lt).1
    have above : ¬ x < distance := fun lt => nomatch hdistance.symm.trans (Double.number_of_lt lt).2
    exact ⟨decide_eq_false below, decide_eq_false above⟩
  | whole n =>
    have unordered := (Double.compareWhole_eq_none distance n).mpr hdistance
    rw [isAbove, isBelow, unordered]
    exact ⟨rfl, rfl⟩
  | unusable kind => exact ⟨rfl, rfl⟩

theorem isAbove_mono (h : tight.atMost loose = true) (habove : tight.isAbove distance = true) :
    loose.isAbove distance = true := by
  obtain ⟨htight, hloose, le⟩ := reach_le_of_atMost h
  cases hdistance : distance.isNaN with
  | true => exact nomatch habove.symm.trans (undefined_within hdistance tight).1
  | false =>
    have within : place distance < tight.reach := (isAbove_iff htight hdistance).mp habove
    exact (isAbove_iff hloose hdistance).mpr (lt_of_lt_of_le within le)

theorem isBelow_anti (h : tight.atMost loose = true) (hbelow : tight.isBelow distance = false) :
    loose.isBelow distance = false := by
  obtain ⟨htight, hloose, le⟩ := reach_le_of_atMost h
  cases hdistance : distance.isNaN with
  | true => exact (undefined_within hdistance loose).2
  | false =>
    rw [Bool.eq_false_iff] at hbelow ⊢
    intro beyond
    have beyond : loose.reach < place distance := (isBelow_iff hloose hdistance).mp beyond
    exact hbelow ((isBelow_iff htight hdistance).mpr (lt_of_le_of_lt le beyond))

end Limit

theorem walk_transfer (Passes : Progress α β → Prop) {visit visit' : Nat → Item → α → Except Fault (Progress α β)}
    (goes : ∀ seen, Passes (.going seen)) (stuck : ∀ reason seen, ¬ Passes (.unreadable reason seen))
    (visits : ∀ index item seen progress, visit index item seen = .ok progress → Passes progress →
      visit' index item seen = .ok progress)
    {items : List Item} {index : Nat} {seen : α} {progress : Progress α β}
    (h : walk visit index items seen = .ok progress) (hpasses : Passes progress) :
    walk visit' index items seen = .ok progress := by
  induction items generalizing index seen with
  | nil => exact h
  | cons item rest ih =>
    -- Every visit up to the end passes, so the other walk takes the same steps.
    rcases walk_cases visit index item seen rest with ⟨next, hvisit, walked⟩ | ⟨settled, hvisit, ended, walked⟩ |
      ⟨reason, -, walked⟩ | ⟨fault, -, -, walked⟩
    all_goals rw [walked] at h
    · rw [walk_next (visits index item seen (.going next) hvisit (goes next))]
      exact ih h
    · obtain rfl := Except.ok.inj h
      exact walk_ended (visits index item seen settled hvisit hpasses) ended rest
    · obtain rfl := Except.ok.inj h
      exact absurd hpasses (stuck reason seen)
    · cases h

namespace Check

variable {ctx : Context σ} {flags : Flags} {outcome : Outcome} {items : List Item}

theorem measureFirst_loosened (h : tight.atMost loose = true) {index : Nat} {item : Item}
    {progress : Progress Unit (Option Finding)} (hmeasured : measureFirst ctx tight index item = .ok progress)
    (hpasses : ∀ finding, progress ≠ .stopped (some finding)) : measureFirst ctx loose index item = .ok progress := by
  unfold measureFirst at hmeasured ⊢
  by_cases hlost : (!ctx.hasPosition item) = true
  · rw [if_pos hlost] at hmeasured ⊢
    exact hmeasured
  · rw [if_neg hlost] at hmeasured ⊢
    dsimp only at hmeasured ⊢
    obtain ⟨distance, measured, hmeasured⟩ := Fault.bind_ok hmeasured
    rw [measured]
    change (if loose.isAbove distance then _ else _) = _
    by_cases habove : tight.isAbove distance = true
    · rw [if_pos habove] at hmeasured
      rw [if_pos (Limit.isAbove_mono h habove)]
      exact hmeasured
    · rw [if_neg habove] at hmeasured
      obtain ⟨whole, -, hmeasured⟩ := Fault.bind_ok hmeasured
      obtain ⟨most, -, hmeasured⟩ := Fault.bind_ok hmeasured
      exact absurd (Except.ok.inj hmeasured).symm (hpasses _)

theorem neighbourFault_loosened (h : tight.atMost loose = true) {index : Nat} {last item : Item}
    (hnear : neighbourFault ctx tight index last item = .ok none) :
    neighbourFault ctx loose index last item = .ok none := by
  unfold neighbourFault at hnear ⊢
  obtain ⟨distance, measured, hnear⟩ := Fault.bind_ok hnear
  rw [measured]
  change (if loose.isBelow distance then _ else _) = _
  by_cases hbelow : tight.isBelow distance = true
  · rw [if_pos hbelow] at hnear
    obtain ⟨whole, -, hnear⟩ := Fault.bind_ok hnear
    obtain ⟨most, -, hnear⟩ := Fault.bind_ok hnear
    exact nomatch hnear
  · rw [if_neg hbelow] at hnear
    have within : loose.isBelow distance = false := Limit.isBelow_anti h (Bool.eq_false_iff.mpr hbelow)
    rw [within]
    exact hnear

theorem measureNeighbour_loosened (h : tight.atMost loose = true) {index : Nat} {item : Item} {last : Option Item}
    {progress : Progress (Option Item) Finding} (hmeasured : measureNeighbour ctx tight index item last = .ok progress)
    (hpasses : ∀ finding, progress ≠ .stopped finding) : measureNeighbour ctx loose index item last = .ok progress := by
  rw [measureNeighbour_eq] at hmeasured ⊢
  by_cases hlost : (!ctx.hasPosition item) = true
  · rw [if_pos hlost] at hmeasured ⊢
    exact hmeasured
  · rw [if_neg hlost] at hmeasured ⊢
    cases last with
    | none => exact hmeasured
    | some before =>
      dsimp only at hmeasured ⊢
      obtain ⟨result, hfault, hstop⟩ := Fault.map_ok hmeasured
      cases result with
      | none =>
        rw [neighbourFault_loosened h hfault]
        exact congrArg Except.ok hstop
      | some finding => exact absurd hstop.symm (hpasses finding)

theorem settle_loosened {id : String} (hcount : ctx.count = items.length) (hlimit : tight.LoosensTo loose) {start : α}
    {visit visit' : Nat → Item → α → Except Fault (Progress α β)} {close : Progress α β → Outcome}
    (goes : ∀ seen, close (.going seen) = .pass flags)
    (passes : ∀ progress, (close progress).passed = true → close progress = .pass flags)
    (stuck : ∀ reason seen, (close (.unreadable reason seen)).passed = false)
    (visits : tight.atMost loose = true → ∀ index item seen progress, visit index item seen = .ok progress →
      (close progress).passed = true → visit' index item seen = .ok progress)
    (h : ((ctx.onList id items).settle (whenOff tight flags) start
      (fun index item seen => .ofExcept (visit index item seen)) close).run () = (.ok outcome, ()))
    (hpassed : outcome.passed = true) :
    ((ctx.onList id items).settle (whenOff loose flags) start
      (fun index item seen => .ofExcept (visit' index item seen)) close).run () = (.ok outcome, ()) := by
  have hpass : outcome = .pass flags := by
    rcases settle_onList hcount h with decided | ⟨-, progress, rfl, -⟩
    · exact whenOff_some decided
    · exact passes progress hpassed
  subst hpass
  rw [run_settle_onList hcount]
  rcases hlimit with hoff | ⟨hon, hmost⟩
  · rw [whenOff, hoff]
    rfl
  · have undecided : whenOff tight flags = .ok none := by
      rw [whenOff, hon]
      rfl
    rcases settle_onList hcount h with decided | ⟨-, progress, hclose, hwalk⟩
    · rw [undecided] at decided
      cases decided
    · have passed : (close progress).passed = true := hclose ▸ hpassed
      have hwalk' : walk visit' 0 items start = .ok progress :=
        walk_transfer (fun progress => (close progress).passed = true) (fun seen => congrArg Outcome.passed (goes seen))
          (fun reason seen => by simp [stuck reason seen]) (visits hmost) hwalk passed
      obtain ⟨off, hoff⟩ := Limit.isOff_of_isNumber (Limit.reach_le_of_atMost hmost).2.1
      rw [whenOff, hoff]
      cases off with
      | true => rfl
      | false =>
        change (close <$> walk visit' 0 items start, ()) = _
        rw [hwalk']
        exact congrArg (fun outcome => (Except.ok outcome, ())) hclose.symm

theorem first_loosened {id : String} (hcount : ctx.count = items.length) (hlimit : tight.LoosensTo loose)
    (h : (Pass.first tight (ctx.onList id items) flags).run () = (.ok outcome, ())) (hpassed : outcome.passed = true) :
    (Pass.first loose (ctx.onList id items) flags).run () = (.ok outcome, ()) := by
  rw [first_eq] at h ⊢
  by_cases hknown : ctx.vehicle.home.altitudeKnown = true
  · have before (limit : Limit) : (if (ctx.onList id items).vehicle.home.altitudeKnown then whenOff limit flags
        else .ok (some (.fail flags .noPositionLock))) = whenOff limit flags := if_pos hknown
    rw [before] at h ⊢
    refine settle_loosened hcount hlimit (fun _ => rfl) ?_ (fun _ _ => rfl) ?_ h hpassed
    · rintro (seen | (_ | finding) | reason) passed
      · rfl
      · rfl
      · exact nomatch passed
      · exact nomatch passed
    · intro hmost index item seen progress hmeasured passed
      apply measureFirst_loosened hmost hmeasured
      rintro finding rfl
      exact nomatch passed
  · rcases settle_onList hcount h with decided | ⟨undecided, -⟩
    · obtain rfl := Option.some.inj (Except.ok.inj ((if_neg hknown).symm.trans decided))
      exact nomatch hpassed
    · exact nomatch (if_neg hknown).symm.trans undecided

theorem betweenDistance_loosened {id : String} (hcount : ctx.count = items.length) (hlimit : tight.LoosensTo loose)
    (h : (betweenDistance tight (ctx.onList id items) flags).run () = (.ok outcome, ()))
    (hpassed : outcome.passed = true) :
    (betweenDistance loose (ctx.onList id items) flags).run () = (.ok outcome, ()) := by
  rw [betweenDistance_eq] at h ⊢
  refine settle_loosened hcount hlimit (fun _ => rfl) ?_ (fun _ _ => rfl) ?_ h hpassed
  · rintro (seen | finding | reason) passed
    · rfl
    · exact nomatch passed
    · exact nomatch passed
  · intro hmost index item last progress hmeasured passed
    apply measureNeighbour_loosened hmost hmeasured
    rintro finding rfl
    exact nomatch passed

end Check

end Preflight
