import Preflight.Proofs.Check.Distance
import Preflight.Proofs.Check.Fence
import Preflight.Proofs.Check.Validity
import Preflight.Proofs.Faults

/-!
Checks of a list of items that break off. A check breaks off at the first item that it can neither pass nor report,
for a number that cannot be computed or that has no whole part to report.
-/
namespace Preflight

variable {σ α β : Type} {ctx : Context σ} {id : String} {items : List Item}

section

variable {visit : Nat → Item → α → Except Fault (Progress α β)} {start : α}
  (numeric : ∀ before item after seen, items = before ++ item :: after → Numeric (visit before.length item seen))

include numeric

theorem numeric_walk : Numeric (walk visit 0 items start) := by
  intro fault h
  obtain ⟨before, item, after, seen, hitems, -, hvisit⟩ := walk_eq_error h
  exact numeric before item after seen hitems fault hvisit

theorem breaks_walk : Breaks (walk visit 0 items start) ↔ ∃ before item after seen, items = before ++ item :: after ∧
    walk visit 0 before start = .ok (.going seen) ∧ Breaks (visit before.length item seen) := by
  constructor
  · rintro ⟨fault, h⟩
    obtain ⟨before, item, after, seen, hitems, hwalk, hvisit⟩ := walk_eq_error h
    exact ⟨before, item, after, seen, hitems, hwalk, fault, hvisit⟩
  · rintro ⟨before, item, after, seen, hitems, hwalk, fault, hvisit⟩
    -- A walk that cannot read an item ends with a report; every other fault ends it without one.
    have broken : walk visit 0 items start = .error fault := by
      have readable := (numeric before item after seen hitems).ne_storage
      rw [hvisit] at readable
      rw [hitems, walk_cons_end visit hwalk]
      exact walk_broken hvisit (fun reason => mt (congrArg Except.error) (readable reason)) after
    exact ⟨fault, broken⟩

end

theorem breaks_walk_stopAt {fault : Nat → Item → Except Fault (Option Finding)}
    (numeric : ∀ index item, Numeric (fault index item)) :
    Breaks (walk (fun index item seen => Check.stopAt seen <$> fault index item) 0 items ()) ↔
      ∃ before item after, items = before ++ item :: after ∧
        (∀ (index : Nat) earlier, before[index]? = some earlier → fault index earlier = .ok none) ∧
        Breaks (fault before.length item) := by
  rw [breaks_walk fun before item _ _ _ => numeric_map _ (numeric before.length item)]
  constructor
  · rintro ⟨before, item, after, ⟨⟩, hitems, hwalk, broken⟩
    exact ⟨before, item, after, hitems, walk_stopAt.mp hwalk, breaks_map.mp broken⟩
  · rintro ⟨before, item, after, hitems, passed, broken⟩
    exact ⟨before, item, after, (), hitems, walk_stopAt.mpr passed, breaks_map.mpr broken⟩

theorem not_breaks_walk (visit : Nat → Item → α → Progress α β) (start : α) :
    ¬ Breaks (walk (fun index item seen => .ok (visit index item seen)) 0 items start) := by
  rintro ⟨fault, h⟩
  obtain ⟨_, _, _, _, _, _, hvisit⟩ := walk_eq_error h
  exact nomatch hvisit

section

variable {start : α} {visit : Nat → Item → α → Reads Unit (Progress α β)} {close : Progress α β → Outcome}

theorem breaks_settle (hcount : ctx.count = items.length) (before : Option Outcome) :
    Breaks (((ctx.onList id items).settle (.ok before) start visit close).run ()).1 ↔
      before = none ∧ Breaks (walk (fun index item seen => ((visit index item seen).run ()).1) 0 items start) := by
  rw [run_settle_onList hcount]
  cases before with
  | some outcome => simp
  | none => simp

theorem numeric_settle (hcount : ctx.count = items.length) (before : Option Outcome)
    (h : Numeric (walk (fun index item seen => ((visit index item seen).run ()).1) 0 items start)) :
    Numeric (((ctx.onList id items).settle (.ok before) start visit close).run ()).1 := by
  rw [run_settle_onList hcount]
  cases before with
  | some outcome => exact numeric_ok outcome
  | none => exact numeric_map close h

end

namespace Check

variable {limit : Float} {flags : Flags}

theorem breaks_report {γ : Type} {number bound : Float} {report : Int → Int → γ} :
    Breaks (do return report (← wholeOf number) (← wholeOf bound)) ↔
      Double.isFinite number = false ∨ Double.isFinite bound = false := by
  rw [← breaks_wholeOf, ← breaks_wholeOf]
  refine breaks_bind_of fun n => (breaks_bind_of fun m => ?_).trans (or_iff_left not_false)
  exact iff_of_false (not_breaks_ok _) not_false

inductive ServoUnreportable (vehicle : Vehicle) (item : Item) : Prop
  | number (out : servo item < 0.0 ∨ Double.ofInt greatestServo < servo item)
      (endless : Double.isFinite (servo item) = false)
  | value (within : ¬ (servo item < 0.0 ∨ Double.ofInt greatestServo < servo item))
      (out : servoValue item < -vehicle.actuatorLimit ∨ vehicle.actuatorLimit < servoValue item)
      (endless : Double.isFinite (servoValue item) = false ∨ Double.isFinite vehicle.actuatorLimit = false)

theorem supported_of_servo {item : Item} (h : item.carries .doSetServo = true) : item.capability.supported = true := by
  rw [Item.capability, show item.code = _ from beq_iff_eq.mp h]
  decide

theorem breaks_invalidity {vehicle : Vehicle} {index : Nat} {item : Item} :
    Breaks (invalidity vehicle index item) ↔ item.carries .doSetServo = true ∧ ServoUnreportable vehicle item := by
  have ends (landing : Bool) (finding : Finding) :
      ¬ Breaks (if landing then pure (some finding) else pure none : Except Fault (Option Finding)) := by
    cases landing <;> exact not_breaks_ok _
  unfold invalidity
  cases hservo : item.carries .doSetServo with
  | false =>
    refine iff_of_false ?_ nofun
    split
    · exact not_breaks_ok _
    · exact ends _ _
  | true =>
    rw [supported_of_servo hservo]
    simp only [Bool.not_true, Bool.false_eq_true, if_false, if_true, true_and, Bool.or_eq_true, decide_eq_true_iff]
    split
    next out =>
      rw [breaks_bind, breaks_wholeOf]
      constructor
      · rintro (endless | ⟨_, -, ended⟩)
        · exact .number out endless
        · exact absurd ended (not_breaks_ok _)
      · rintro (⟨-, endless⟩ | ⟨within, -, -⟩)
        · exact .inl endless
        · exact absurd out within
    next within =>
      split
      next out =>
        rw [breaks_report]
        constructor
        · exact fun endless => .value within out endless
        · rintro (⟨out', -⟩ | ⟨-, -, endless⟩)
          · exact absurd out' within
          · exact endless
      next fine =>
        refine iff_of_false (ends _ _) ?_
        rintro (⟨out, -⟩ | ⟨-, out, -⟩)
        · exact within out
        · exact fine out

structure Valid (vehicle : Vehicle) (index : Nat) (item : Item) : Prop where
  supported : item.capability.supported = true
  servo : item.carries .doSetServo = true →
    (¬ servo item < 0.0 ∧ ¬ Double.ofInt greatestServo < servo item) ∧
      ¬ servoValue item < -vehicle.actuatorLimit ∧ ¬ vehicle.actuatorLimit < servoValue item
  airborne : ¬ (index = 0 ∧ item.carries .land = true ∧ vehicle.landed = true)

theorem invalidity_eq_none {vehicle : Vehicle} {index : Nat} {item : Item} :
    invalidity vehicle index item = .ok none ↔ Valid vehicle index item := by
  constructor
  · intro h
    refine ⟨?_, servo_of_invalidity h, ?_⟩
    · unfold invalidity at h
      simp only [bind, Except.bind, pure, Except.pure] at h
      grind
    · unfold invalidity at h
      simp only [bind, Except.bind, pure, Except.pure] at h
      grind
  · rintro ⟨supported, within, airborne⟩
    unfold invalidity
    simp only [bind, Except.bind, pure, Except.pure]
    grind

def ValidityBreaks (vehicle : Vehicle) (items : List Item) : Prop :=
  ∃ before item after, items = before ++ item :: after ∧
    (∀ (index : Nat) earlier, before[index]? = some earlier → Valid vehicle index earlier) ∧
    item.carries .doSetServo = true ∧ ServoUnreportable vehicle item

theorem numeric_report {γ : Type} {number bound : Float} {report : Int → Int → γ} :
    Numeric (do return report (← wholeOf number) (← wholeOf bound)) :=
  numeric_bind (numeric_wholeOfReal _) fun _ => numeric_bind (numeric_wholeOfReal _) fun _ => numeric_ok _

theorem numeric_invalidity (vehicle : Vehicle) (index : Nat) (item : Item) : Numeric (invalidity vehicle index item) := by
  have ends : Numeric (if index = 0 && item.carries .land && vehicle.landed then
      pure (some (.startsWithLanding false)) else pure none : Except Fault (Option Finding)) :=
    numeric_ite (numeric_ok _) (numeric_ok _)
  unfold invalidity
  dsimp only
  refine numeric_ite (numeric_ok _) (numeric_ite (numeric_ite ?_ (numeric_ite numeric_report ends)) ends)
  exact numeric_bind (numeric_wholeOfReal _) fun _ => numeric_ok _

theorem validity_numeric (hcount : ctx.count = items.length) :
    Numeric ((validity (ctx.onList id items) flags).run ()).1 := by
  rw [validity_eq]
  exact numeric_settle hcount none (numeric_walk fun _ _ _ _ _ => numeric_map _ (numeric_invalidity _ _ _))

theorem validity_breaks_iff (hcount : ctx.count = items.length) :
    Breaks ((validity (ctx.onList id items) flags).run ()).1 ↔ ValidityBreaks ctx.vehicle items := by
  rw [validity_eq, breaks_settle hcount, and_iff_right rfl]
  refine (breaks_walk_stopAt fun index item => numeric_invalidity ctx.vehicle index item).trans ?_
  refine exists₃_congr fun before item after => and_congr_right fun _ => ?_
  refine and_congr (forall₃_congr fun index earlier _ => ?_) breaks_invalidity
  exact invalidity_eq_none

/-- A measured distance that cannot be reported: it is refused, and it or the limit has no whole part. -/
inductive Unreportable (limit : Float) (refused : Float → Prop) : Except Fault Float → Prop
  | unmeasured (fault : Fault) : Unreportable limit refused (.error fault)
  | endless {distance : Float} (far : refused distance)
      (endless : Double.isFinite distance = false ∨ Double.isFinite limit = false) :
      Unreportable limit refused (.ok distance)

theorem breaks_measured {γ : Type} {measured : Except Fault Float} {refused : Float → Prop}
    {judge : Float → Except Fault γ} (judged : ∀ distance, Breaks (judge distance) ↔
      refused distance ∧ (Double.isFinite distance = false ∨ Double.isFinite limit = false)) :
    Breaks (measured >>= judge) ↔ Unreportable limit refused measured := by
  cases measured with
  | error fault => exact iff_of_true ⟨fault, rfl⟩ (.unmeasured fault)
  | ok distance =>
    refine (judged distance).trans ⟨fun ⟨far, endless⟩ => .endless far endless, fun unreportable => ?_⟩
    cases unreportable with
    | endless far endless => exact ⟨far, endless⟩

theorem measureFirst_lost {limit : Limit} {index : Nat} {item : Item} (h : ctx.hasPosition item = false) :
    measureFirst ctx limit index item = .ok (.going ()) := by
  rw [measureFirst, if_pos (by simp [h])]
  rfl

theorem breaks_measureFirst {index : Nat} {item : Item} :
    Breaks (measureFirst ctx (.meters limit) index item) ↔ ctx.hasPosition item = true ∧
      Unreportable limit (¬ · < limit)
        (ctx.distance item.lat item.lon ctx.vehicle.home.lat ctx.vehicle.home.lon) := by
  cases hposition : ctx.hasPosition item with
  | false =>
    rw [measureFirst_lost hposition]
    exact iff_of_false (not_breaks_ok _) nofun
  | true =>
    rw [measureFirst, if_neg (by simp [hposition])]
    refine Iff.trans (breaks_measured fun distance => ?_) (and_iff_right rfl).symm
    by_cases near : distance < limit
    · rw [if_pos (show Limit.isAbove (.meters limit) distance = true from decide_eq_true near)]
      exact iff_of_false (not_breaks_ok _) fun refused => refused.1 near
    · rw [if_neg (show ¬ Limit.isAbove (.meters limit) distance = true from mt of_decide_eq_true near)]
      exact breaks_report.trans (and_iff_right near).symm

theorem whenOff_meters : whenOff (.meters limit) flags = .ok (if limit ≤ 0.0 then some (.pass flags) else none) := by
  by_cases off : limit ≤ 0.0
  · simp [whenOff, Limit.isOff, off]
  · simp [whenOff, Limit.isOff, off]

structure FirstBreaks (ctx : Context σ) (limit : Float) (items : List Item) : Prop where
  home : ctx.vehicle.home.altitudeKnown = true
  on : ¬ limit ≤ 0.0
  first : ∃ item, items.find? ctx.hasPosition = some item ∧ Unreportable limit (¬ · < limit)
    (ctx.distance item.lat item.lon ctx.vehicle.home.lat ctx.vehicle.home.lon)

variable (numeric : ∀ lat₁ lon₁ lat₂ lon₂, Numeric (ctx.distance lat₁ lon₁ lat₂ lon₂))

include numeric in
theorem numeric_measureFirst (index : Nat) (item : Item) : Numeric (measureFirst ctx (.meters limit) index item) := by
  unfold measureFirst
  exact numeric_ite (numeric_ok _) (numeric_bind (numeric _ _ _ _) fun distance =>
    numeric_ite (numeric_ok _) numeric_report)

theorem measureFirst_going {index : Nat} {item : Item} :
    measureFirst ctx (.meters limit) index item = .ok (.going ()) ↔ ctx.hasPosition item = false := by
  refine ⟨fun h => ?_, measureFirst_lost⟩
  cases hposition : ctx.hasPosition item with
  | false => rfl
  | true =>
    rw [measureFirst, if_neg (by simp [hposition])] at h
    obtain ⟨distance, -, h⟩ := Fault.bind_ok h
    split at h
    · exact nomatch h
    · obtain ⟨_, -, h⟩ := Fault.bind_ok h
      obtain ⟨_, -, h⟩ := Fault.bind_ok h
      exact nomatch h

theorem before_meters (ctx : Context σ) (limit : Float) (flags : Flags) :
    (if ctx.vehicle.home.altitudeKnown then whenOff (.meters limit) flags
      else .ok (some (.fail flags .noPositionLock))) =
        .ok (if ctx.vehicle.home.altitudeKnown ∧ ¬ limit ≤ 0.0 then none
          else some (if ctx.vehicle.home.altitudeKnown then .pass flags else .fail flags .noPositionLock)) := by
  rw [whenOff_meters]
  cases ctx.vehicle.home.altitudeKnown <;> by_cases off : limit ≤ 0.0 <;> simp [off]

include numeric in
theorem first_numeric (hcount : ctx.count = items.length) :
    Numeric ((Pass.first (.meters limit) (ctx.onList id items) flags).run ()).1 := by
  rw [first_eq, before_meters]
  exact numeric_settle hcount _ (numeric_walk fun _ _ _ _ _ => numeric_measureFirst numeric _ _)

include numeric in
theorem first_breaks_iff (hcount : ctx.count = items.length) :
    Breaks ((Pass.first (.meters limit) (ctx.onList id items) flags).run ()).1 ↔ FirstBreaks ctx limit items := by
  rw [first_eq, before_meters, breaks_settle hcount,
    breaks_walk fun before item after seen _ => numeric_measureFirst numeric before.length item]
  constructor
  · rintro ⟨decided, before, item, after, ⟨⟩, hitems, hwalk, broken⟩
    change (if ctx.vehicle.home.altitudeKnown = true ∧ ¬ limit ≤ 0.0 then none else _) = none at decided
    obtain ⟨home, on⟩ : ctx.vehicle.home.altitudeKnown = true ∧ ¬ limit ≤ 0.0 := by
      by_contra other
      rw [if_neg other] at decided
      exact nomatch decided
    obtain ⟨hposition, unreportable⟩ := breaks_measureFirst.mp broken
    refine ⟨home, on, item, ?_, unreportable⟩
    rw [List.find?_eq_some_iff_append]
    refine ⟨hposition, before, after, hitems, fun earlier hearlier => ?_⟩
    obtain ⟨index, hfound⟩ := List.mem_iff_getElem?.mp hearlier
    have lost : ctx.hasPosition earlier = false := measureFirst_going.mp (walk_unit_going.mp hwalk index earlier hfound)
    simp [lost]
  · rintro ⟨home, on, item, hfirst, unreportable⟩
    obtain ⟨hposition, before, after, hitems, lost⟩ := List.find?_eq_some_iff_append.mp hfirst
    refine ⟨if_pos ⟨home, on⟩, before, item, after, (), hitems, ?_, breaks_measureFirst.mpr ⟨hposition, unreportable⟩⟩
    refine walk_unit_going.mpr fun index earlier hfound => ?_
    have lost : ctx.hasPosition earlier = false := by simpa using lost earlier (List.mem_of_getElem? hfound)
    exact measureFirst_lost lost

def Near (ctx : Context σ) (limit : Float) (last item : Item) : Prop :=
  ∃ distance, ctx.distance item.lat item.lon last.lat last.lon = .ok distance ∧ ¬ limit < distance ∧
    ¬ (distance < leastGateDistance ∧ (isGate item = true ∨ isGate last = true))

theorem neighbourFault_eq (ctx : Context σ) (limit : Float) (index : Nat) (last item : Item) :
    neighbourFault ctx (.meters limit) index last item =
      ctx.distance item.lat item.lon last.lat last.lon >>= fun distance =>
        if limit < distance then do
          return some (.tooFarApart index (← wholeOf distance) (← wholeOf limit))
        else .ok (if distance < leastGateDistance ∧ (isGate item = true ∨ isGate last = true) then
          some (.gateTooClose index distance leastGateDistance) else none) := by
  refine bind_congr fun distance => ?_
  by_cases far : limit < distance
  · rw [if_pos far, if_pos (show Limit.isBelow (.meters limit) distance = true from decide_eq_true far)]
    rfl
  · rw [if_neg far, if_neg (show ¬ Limit.isBelow (.meters limit) distance = true from mt of_decide_eq_true far)]
    simp only [Bool.and_eq_true, Bool.or_eq_true, decide_eq_true_iff]
    split <;> rfl

theorem neighbourFault_eq_none {index : Nat} {last item : Item} :
    neighbourFault ctx (.meters limit) index last item = .ok none ↔ Near ctx limit last item := by
  rw [neighbourFault_eq]
  constructor
  · intro h
    obtain ⟨distance, measured, h⟩ := Fault.bind_ok h
    refine ⟨distance, measured, ?_⟩
    split at h
    · obtain ⟨_, -, h⟩ := Fault.bind_ok h
      obtain ⟨_, -, h⟩ := Fault.bind_ok h
      exact nomatch h
    next near =>
      refine ⟨near, fun gate => ?_⟩
      rw [if_pos gate] at h
      exact nomatch h
  · rintro ⟨distance, measured, near, free⟩
    rw [measured]
    change (if limit < distance then _ else _) = _
    rw [if_neg near, if_neg free]

theorem breaks_neighbourFault {index : Nat} {last item : Item} :
    Breaks (neighbourFault ctx (.meters limit) index last item) ↔
      Unreportable limit (limit < ·) (ctx.distance item.lat item.lon last.lat last.lon) := by
  rw [neighbourFault_eq]
  refine breaks_measured fun distance => ?_
  split
  next far => exact breaks_report.trans (and_iff_right far).symm
  next near => exact iff_of_false (not_breaks_ok _) fun refused => near refused.1

include numeric in
theorem numeric_neighbourFault (index : Nat) (last item : Item) :
    Numeric (neighbourFault ctx (.meters limit) index last item) := by
  rw [neighbourFault_eq]
  exact numeric_bind (numeric _ _ _ _) fun distance => numeric_ite numeric_report (numeric_ok _)

structure NeighboursBreak (ctx : Context σ) (limit : Float) (items : List Item) : Prop where
  on : ¬ limit ≤ 0.0
  neighbours : ∃ before item after last, items = before ++ item :: after ∧
    (before.filter ctx.hasPosition).IsChain (Near ctx limit) ∧
    (before.filter ctx.hasPosition).getLast? = some last ∧ ctx.hasPosition item = true ∧
    Unreportable limit (limit < ·) (ctx.distance item.lat item.lon last.lat last.lon)

theorem breaks_measureNeighbour {index : Nat} {item : Item} {last : Option Item} :
    Breaks (measureNeighbour ctx (.meters limit) index item last) ↔ ctx.hasPosition item = true ∧ ∃ before ∈ last,
      Unreportable limit (limit < ·) (ctx.distance item.lat item.lon before.lat before.lon) := by
  rw [measureNeighbour_eq]
  cases hposition : ctx.hasPosition item with
  | false => exact iff_of_false (not_breaks_ok _) nofun
  | true =>
    cases last with
    | none => exact iff_of_false (not_breaks_ok _) nofun
    | some before =>
      change Breaks (_ <$> _) ↔ _
      rw [breaks_map, breaks_neighbourFault]
      simp

include numeric in
theorem numeric_measureNeighbour (index : Nat) (item : Item) (last : Option Item) :
    Numeric (measureNeighbour ctx (.meters limit) index item last) := by
  rw [measureNeighbour_eq]
  refine numeric_ite (numeric_ok _) ?_
  cases last with
  | none => exact numeric_ok _
  | some before => exact numeric_map _ (numeric_neighbourFault numeric index before item)

theorem measureNeighbour_near {before : List Item} {item : Item} (index : Nat)
    (chain : ((before ++ [item]).filter ctx.hasPosition).IsChain (Near ctx limit)) :
    measureNeighbour ctx (.meters limit) index item (before.filter ctx.hasPosition).getLast? =
      .ok (.going ((before ++ [item]).filter ctx.hasPosition).getLast?) := by
  rw [measureNeighbour_eq]
  cases hposition : ctx.hasPosition item with
  | false => simp [filter_concat_of_lost hposition]
  | true =>
    rw [filter_concat_of_position hposition, List.isChain_append] at chain
    rw [filter_concat_of_position hposition, List.getLast?_concat]
    cases hlast : (before.filter ctx.hasPosition).getLast? with
    | none => rfl
    | some last =>
      have near : neighbourFault ctx (.meters limit) index last item = .ok none :=
        neighbourFault_eq_none.mpr (chain.2.2 last hlast item rfl)
      simp only [Bool.not_true, Bool.false_eq_true, if_false, near]
      rfl

theorem walk_neighbours {last : Option Item} :
    walk (measureNeighbour ctx (.meters limit)) 0 items none = .ok (.going last) ↔
      last = (items.filter ctx.hasPosition).getLast? ∧ (items.filter ctx.hasPosition).IsChain (Near ctx limit) := by
  constructor
  · intro h
    obtain ⟨hlast, chain⟩ := isChain_of_walk h
    exact ⟨hlast, chain.imp fun _ _ ⟨_, near⟩ => neighbourFault_eq_none.mp near⟩
  · rintro ⟨rfl, chain⟩
    have settles : (∃ last, walk (measureNeighbour ctx (.meters limit)) 0 items none = .ok (.going last) ∧
          last = (items.filter ctx.hasPosition).getLast?) ∨
        ∃ result, walk (measureNeighbour ctx (.meters limit)) 0 items none = .ok (.stopped result) ∧ False := by
      refine walk_settles (I := fun before last => last = (before.filter ctx.hasPosition).getLast?) ?_ rfl
      rintro before item after _ rfl rfl
      rw [List.append_cons, List.filter_append] at chain
      exact .inl ⟨_, measureNeighbour_near before.length chain.left_of_append, rfl⟩
    obtain ⟨last, hwalk, rfl⟩ | ⟨-, -, never⟩ := settles
    · exact hwalk
    · exact never.elim

include numeric in
theorem betweenDistance_numeric (hcount : ctx.count = items.length) :
    Numeric ((betweenDistance (.meters limit) (ctx.onList id items) flags).run ()).1 := by
  rw [betweenDistance_eq, whenOff_meters]
  exact numeric_settle hcount _ (numeric_walk fun _ _ _ _ _ => numeric_measureNeighbour numeric _ _ _)

include numeric in
theorem betweenDistance_breaks_iff (hcount : ctx.count = items.length) :
    Breaks ((betweenDistance (.meters limit) (ctx.onList id items) flags).run ()).1 ↔
      NeighboursBreak ctx limit items := by
  rw [betweenDistance_eq, whenOff_meters, breaks_settle hcount]
  change _ ∧ Breaks (walk (measureNeighbour ctx (.meters limit)) 0 items none) ↔ _
  rw [breaks_walk fun before item after seen _ => numeric_measureNeighbour numeric before.length item seen]
  constructor
  · rintro ⟨decided, before, item, after, last, hitems, hwalk, broken⟩
    have on : ¬ limit ≤ 0.0 := by
      intro off
      rw [if_pos off] at decided
      exact nomatch decided
    obtain ⟨rfl, chain⟩ := walk_neighbours.mp hwalk
    obtain ⟨hposition, last, hlast, unreportable⟩ := breaks_measureNeighbour.mp broken
    exact ⟨on, before, item, after, last, hitems, chain, hlast, hposition, unreportable⟩
  · rintro ⟨on, before, item, after, last, hitems, chain, hlast, hposition, unreportable⟩
    refine ⟨if_neg on, before, item, after, some last, hitems, ?_, ?_⟩
    · exact walk_neighbours.mpr ⟨hlast.symm, chain⟩
    · exact breaks_measureNeighbour.mpr ⟨hposition, last, rfl, unreportable⟩

structure Inside (ctx : Context σ) (item : Item) : Prop where
  resolved : item.relative = true → ctx.vehicle.home.known = true
  inside : ctx.hasPosition (item.toAmsl ctx.vehicle.home.altitude) = true →
    ctx.fence.check (item.toAmsl ctx.vehicle.home.altitude) = .ok true

structure FenceBreaks (ctx : Context σ) (items : List Item) : Prop where
  home : ctx.fence.isHomeRequired = true → ctx.vehicle.home.known = true
  usable : ctx.fence.isUsable = true
  position : ∃ before item after, items = before ++ item :: after ∧ (∀ earlier ∈ before, Inside ctx earlier) ∧
    (item.relative = true → ctx.vehicle.home.known = true) ∧
    ctx.hasPosition (item.toAmsl ctx.vehicle.home.altitude) = true ∧
    Breaks (ctx.fence.check (item.toAmsl ctx.vehicle.home.altitude))

theorem resolved_iff {item : Item} : ¬ (item.relative && !ctx.vehicle.home.known) = true ↔
    (item.relative = true → ctx.vehicle.home.known = true) := by
  simp

theorem fenceBreach_eq_none {index : Nat} {item : Item} : fenceBreach ctx index item = .ok none ↔ Inside ctx item := by
  rw [fenceBreach_eq]
  constructor
  · intro h
    split at h
    · exact nomatch h
    next resolved =>
      refine ⟨resolved_iff.mp resolved, fun hposition => ?_⟩
      rw [if_pos hposition] at h
      obtain ⟨inside, checked, h⟩ := Fault.map_ok h
      cases inside with
      | true => exact checked
      | false => exact nomatch h
  · rintro ⟨resolved, inside⟩
    rw [if_neg (resolved_iff.mpr resolved)]
    split
    next hposition =>
      rw [inside hposition]
      rfl
    next => rfl

theorem breaks_fenceBreach {index : Nat} {item : Item} :
    Breaks (fenceBreach ctx index item) ↔ (item.relative = true → ctx.vehicle.home.known = true) ∧
      ctx.hasPosition (item.toAmsl ctx.vehicle.home.altitude) = true ∧
      Breaks (ctx.fence.check (item.toAmsl ctx.vehicle.home.altitude)) := by
  rw [fenceBreach_eq, ← resolved_iff]
  split
  next unresolved => exact iff_of_false (not_breaks_ok _) fun h => h.1 unresolved
  next resolved =>
    rw [and_iff_right resolved]
    split
    next hposition => rw [breaks_map, and_iff_right hposition]
    next lost => exact iff_of_false (not_breaks_ok _) fun h => lost h.1

theorem numeric_fenceBreach (ctx : Context σ) (index : Nat) (item : Item) : Numeric (fenceBreach ctx index item) := by
  rw [fenceBreach_eq]
  refine numeric_ite (numeric_ok _) (numeric_ite ?_ (numeric_ok _))
  exact numeric_map _ (Geofence.numeric_check _ _)

theorem whenUnfenced_none : whenUnfenced ctx flags = none ↔
    (ctx.fence.isHomeRequired = true → ctx.vehicle.home.known = true) ∧ ctx.fence.isUsable = true := by
  unfold whenUnfenced
  cases ctx.fence.isHomeRequired <;> cases ctx.vehicle.home.known <;> cases ctx.fence.isUsable <;> simp

theorem fence_numeric (hcount : ctx.count = items.length) :
    Numeric ((fence (ctx.onList id items) flags).run ()).1 := by
  rw [fence_eq]
  exact numeric_settle hcount _ (numeric_walk fun _ _ _ _ _ => numeric_map _ (numeric_fenceBreach _ _ _))

theorem fence_breaks_iff (hcount : ctx.count = items.length) :
    Breaks ((fence (ctx.onList id items) flags).run ()).1 ↔ FenceBreaks ctx items := by
  rw [fence_eq, breaks_settle hcount, whenUnfenced_none]
  refine (and_congr_right' (breaks_walk_stopAt fun index item => numeric_fenceBreach ctx index item)).trans ?_
  constructor
  · rintro ⟨⟨home, usable⟩, before, item, after, hitems, passed, broken⟩
    refine ⟨home, usable, before, item, after, hitems, fun earlier hearlier => ?_, breaks_fenceBreach.mp broken⟩
    obtain ⟨index, hfound⟩ := List.mem_iff_getElem?.mp hearlier
    exact fenceBreach_eq_none.mp (passed index earlier hfound)
  · rintro ⟨home, usable, before, item, after, hitems, inside, broken⟩
    refine ⟨⟨home, usable⟩, before, item, after, hitems, fun index earlier hfound => ?_, breaks_fenceBreach.mpr broken⟩
    exact fenceBreach_eq_none.mpr (inside earlier (List.mem_of_getElem? hfound))

end Check

end Preflight
