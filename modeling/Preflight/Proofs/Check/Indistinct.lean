import Mathlib.Data.List.Forall2
import Mathlib.Data.Option.Basic
import Preflight.Proofs.Check.Distance
import Preflight.Proofs.Check.Fence
import Preflight.Proofs.Check.HomeAltitude
import Preflight.Proofs.Check.Landing
import Preflight.Proofs.Check.Takeoff
import Preflight.Proofs.Check.Validity

namespace Preflight

variable {σ α α' β : Type} {R : Item → Item → Prop} {S : α → α' → Prop} {items items' : List Item}

/-- Answers of two visits: what they settle is the same, what they keep is related. -/
inductive Matches (S : α → α' → Prop) : Except Fault (Progress α β) → Except Fault (Progress α' β) → Prop
  | going {seen : α} {seen' : α'} (kept : S seen seen') : Matches S (.ok (.going seen)) (.ok (.going seen'))
  | stopped (result : β) : Matches S (.ok (.stopped result)) (.ok (.stopped result))
  | unreadable (reason : String) {seen : α} {seen' : α'} (kept : S seen seen') :
      Matches S (.ok (.unreadable reason seen)) (.ok (.unreadable reason seen'))
  | error (fault : Fault) : Matches S (.error fault) (.error fault)

theorem matches_refl (answer : Except Fault (Progress α β)) : Matches Eq answer answer := by
  rcases answer with fault | seen | result | ⟨reason, seen⟩
  · exact .error fault
  · exact .going rfl
  · exact .stopped result
  · exact .unreadable reason rfl

theorem eq_of_matches {answer answer' : Except Fault (Progress α β)} (h : Matches Eq answer answer') :
    answer = answer' := by
  cases h with
  | going kept => rw [kept]
  | stopped result => rfl
  | unreadable reason kept => rw [kept]
  | error fault => rfl

theorem walk_matches {last : Nat} {visit : Nat → Item → α → Except Fault (Progress α β)}
    {visit' : Nat → Item → α' → Except Fault (Progress α' β)}
    (visits : ∀ index < last, ∀ item item' seen seen', R item item' → S seen seen' →
      Matches S (visit index item seen) (visit' index item' seen'))
    (hitems : List.Forall₂ R items items') {index : Nat} (hlast : index + items.length = last) {start : α}
    {start' : α'} (hstart : S start start') :
    Matches S (walk visit index items start) (walk visit' index items' start') := by
  induction hitems generalizing index start start' with
  | nil => exact .going hstart
  | @cons item item' rest rest' hitem hrest ih =>
    rw [List.length_cons] at hlast
    have visited := visits index (by omega) item item' start start' hitem hstart
    rw [walk, walk]
    generalize visit index item start = answer at visited
    generalize visit' index item' start' = answer' at visited
    cases visited with
    | going kept => exact ih (by omega) kept
    | stopped result => exact .stopped result
    | unreadable reason kept => exact .unreadable reason kept
    | error fault =>
      cases fault with
      | storage reason => exact .unreadable reason hstart
      | _ => exact .error _

theorem settle_matches {ctx : Context σ} (id id' : String) (hcount : ctx.count = items.length)
    (hitems : List.Forall₂ R items items') (before : Except Fault (Option Outcome)) {start : α} {start' : α'}
    (hstart : S start start') {visit : Nat → Item → α → Reads Unit (Progress α β)}
    {visit' : Nat → Item → α' → Reads Unit (Progress α' β)}
    (visits : ∀ index < items.length, ∀ item item' seen seen', R item item' → S seen seen' →
      Matches S ((visit index item seen).run ()).1 ((visit' index item' seen').run ()).1)
    {close : Progress α β → Outcome} {close' : Progress α' β → Outcome}
    (closes : ∀ progress progress', Matches S (.ok progress) (.ok progress') → close progress = close' progress') :
    ((ctx.onList id items).settle before start visit close).run () =
      ((ctx.onList id' items').settle before start' visit' close').run () := by
  have hcount' : ctx.count = items'.length := hcount.trans hitems.length_eq
  rw [run_settle_onList hcount, run_settle_onList hcount']
  rcases before with fault | _ | outcome
  · rfl
  · have walked := walk_matches visits hitems (Nat.zero_add _) hstart
    dsimp only
    generalize walk _ 0 items start = answer at walked
    generalize walk _ 0 items' start' = answer' at walked
    cases walked with
    | error fault => rfl
    | going kept => exact congrArg (fun outcome => (Except.ok outcome, ())) (closes _ _ (.going kept))
    | stopped result => exact congrArg (fun outcome => (Except.ok outcome, ())) (closes _ _ (.stopped result))
    | unreadable reason kept =>
      exact congrArg (fun outcome => (Except.ok outcome, ())) (closes _ _ (.unreadable reason kept))
  · rfl

theorem settle_congr {ctx : Context σ} (id id' : String) (hcount : ctx.count = items.length)
    (hitems : List.Forall₂ R items items') (before : Except Fault (Option Outcome)) (start : α)
    {visit visit' : Nat → Item → α → Reads Unit (Progress α β)}
    (visits : ∀ index < items.length, ∀ item item' seen, R item item' →
      (visit index item seen).run () = (visit' index item' seen).run ())
    (close : Progress α β → Outcome) :
    ((ctx.onList id items).settle before start visit close).run () =
      ((ctx.onList id' items').settle before start visit' close).run () := by
  apply settle_matches id id' hcount hitems before (S := Eq) rfl
  · rintro index hi item item' seen _ hitem rfl
    rw [visits index hi item item' seen hitem]
    exact matches_refl _
  · intro progress progress' h
    rw [Except.ok.inj (eq_of_matches h)]

structure Item.Indistinct (vehicle : Vehicle) (a b : Item) : Prop where
  code : a.code = b.code
  place : a.hasPosition = true → a.lat = b.lat ∧ a.lon = b.lon
  altitude : a.hasPosition = true →
    a.altitudeAmsl vehicle.home.altitude = b.altitudeAmsl vehicle.home.altitude
  unplaced : (a.relative && !vehicle.home.known) = (b.relative && !vehicle.home.known)
  unresolved : (a.relative && !vehicle.home.altitudeKnown) = (b.relative && !vehicle.home.altitudeKnown)
  climb : Check.isTakeoff a = true →
    Check.leastHeight vehicle a = Check.leastHeight vehicle b ∧ Check.isTooLow vehicle a = Check.isTooLow vehicle b
  orbit : a.carries .loiterToAlt = true → a.loiterRadius = b.loiterRadius
  servo : a.carries .doSetServo = true → Check.servo a = Check.servo b ∧ Check.servoValue a = Check.servoValue b

namespace Item.Indistinct

variable {vehicle : Vehicle} {a b : Item}

theorem refl (vehicle : Vehicle) (a : Item) : a.Indistinct vehicle a where
  code := rfl
  place := fun _ => ⟨rfl, rfl⟩
  altitude := fun _ => rfl
  unplaced := rfl
  unresolved := rfl
  climb := fun _ => ⟨rfl, rfl⟩
  orbit := fun _ => rfl
  servo := fun _ => ⟨rfl, rfl⟩

theorem carries (h : a.Indistinct vehicle b) (c : Command) : b.carries c = a.carries c := by
  rw [Item.carries, Item.carries, h.code]

theorem capability (h : a.Indistinct vehicle b) : b.capability = a.capability := by
  rw [Item.capability, Item.capability, h.code]

theorem hasPosition (h : a.Indistinct vehicle b) : b.hasPosition = a.hasPosition := by
  rw [Item.hasPosition, Item.hasPosition, h.capability]

theorem isTakeoff (h : a.Indistinct vehicle b) : Check.isTakeoff b = Check.isTakeoff a := by
  rw [Check.isTakeoff, Check.isTakeoff, h.carries, h.carries]

end Item.Indistinct

theorem Item.hasPosition_of_carries {item : Item} {c : Command} (h : item.carries c = true) :
    item.hasPosition = (Capability.ofCode c.code).hasPosition := by
  rw [hasPosition, capability, beq_iff_eq.mp h]

namespace Geofence

theorem check_congr (fence : Geofence) {a b : Item} (hlat : a.lat = b.lat) (hlon : a.lon = b.lon)
    (haltitude : a.altitude = b.altitude) : fence.check a = fence.check b := by
  cases fence with
  | unlimited => rfl
  | areas fence =>
    have ceiling : fence.exceedsCeiling a = fence.exceedsCeiling b := by
      rw [AreaFence.exceedsCeiling, AreaFence.exceedsCeiling, haltitude]
    simp only [check, AreaFence.check, ceiling, hlat, hlon]

end Geofence

namespace Check

variable {ctx : Context σ} {flags : Flags} {limit : Limit} {vehicle : Vehicle} {a b : Item}

theorem invalidity_congr (h : a.Indistinct vehicle b) (index : Nat) :
    invalidity vehicle index a = invalidity vehicle index b := by
  unfold invalidity
  rw [h.capability, h.carries, h.carries, h.code]
  by_cases hservo : a.carries .doSetServo = true
  · obtain ⟨actuator, value⟩ := h.servo hservo
    rw [actuator, value]
  · rw [if_neg hservo, if_neg hservo]

def Kept (vehicle : Vehicle) : Option Item → Option Item → Prop :=
  Option.Rel fun a b => a.hasPosition = true ∧ a.Indistinct vehicle b

theorem measureFirst_congr (hposition : ctx.hasPosition = Item.hasPosition) (id id' : String)
    (h : a.Indistinct ctx.vehicle b) (index : Nat) :
    measureFirst (ctx.onList id items) limit index a = measureFirst (ctx.onList id' items') limit index b := by
  change measureFirst ctx limit index a = measureFirst ctx limit index b
  unfold measureFirst
  rw [hposition, h.hasPosition]
  by_cases hlocated : a.hasPosition = true
  · obtain ⟨hlat, hlon⟩ := h.place hlocated
    rw [hlat, hlon]
  · have hlost : (!a.hasPosition) = true := by simpa using hlocated
    rw [if_pos hlost, if_pos hlost]

theorem neighbourFault_congr {last last' : Item} (hlast : last.hasPosition = true)
    (hlasts : last.Indistinct ctx.vehicle last') (hlocated : a.hasPosition = true) (h : a.Indistinct ctx.vehicle b)
    (index : Nat) : neighbourFault ctx limit index last a = neighbourFault ctx limit index last' b := by
  obtain ⟨hlat, hlon⟩ := h.place hlocated
  obtain ⟨hlat', hlon'⟩ := hlasts.place hlast
  unfold neighbourFault
  rw [isGate, isGate, isGate, isGate, h.carries, hlasts.carries, hlat, hlon, hlat', hlon']

theorem measureNeighbour_matches (hposition : ctx.hasPosition = Item.hasPosition) (h : a.Indistinct ctx.vehicle b)
    (index : Nat) {last last' : Option Item} (hlast : Kept ctx.vehicle last last') :
    Matches (Kept ctx.vehicle) (measureNeighbour ctx limit index a last) (measureNeighbour ctx limit index b last') := by
  rw [measureNeighbour_eq, measureNeighbour_eq, hposition, h.hasPosition]
  by_cases hlocated : a.hasPosition = true
  · have kept : Kept ctx.vehicle (some a) (some b) := .some ⟨hlocated, h⟩
    rw [hlocated]
    cases hlast with
    | none => exact .going kept
    | @some before before' hbefore =>
      have same : neighbourFault ctx limit index before a = neighbourFault ctx limit index before' b :=
        neighbourFault_congr hbefore.1 hbefore.2 hlocated h index
      dsimp only [Bool.not_true]
      rw [same]
      rcases neighbourFault ctx limit index before' b with fault | _ | finding
      · exact .error fault
      · exact .going kept
      · exact .stopped finding
  · have hlost : (!a.hasPosition) = true := by simpa using hlocated
    rw [if_pos hlost, if_pos hlost]
    exact .going hlast

theorem fenceBreach_congr (hposition : ctx.hasPosition = Item.hasPosition) (h : a.Indistinct ctx.vehicle b)
    (index : Nat) : fenceBreach ctx index a = fenceBreach ctx index b := by
  have resolved (item : Item) : (item.toAmsl ctx.vehicle.home.altitude).hasPosition = item.hasPosition := by
    unfold Item.toAmsl
    split <;> rfl
  rw [fenceBreach_eq, fenceBreach_eq, h.unplaced, hposition, resolved, resolved, h.hasPosition]
  by_cases hlocated : a.hasPosition = true
  · have place (item : Item) : (item.toAmsl ctx.vehicle.home.altitude).lat = item.lat ∧
        (item.toAmsl ctx.vehicle.home.altitude).lon = item.lon := by
      unfold Item.toAmsl
      split <;> exact ⟨rfl, rfl⟩
    obtain ⟨hlat, hlon⟩ := h.place hlocated
    rw [Geofence.check_congr ctx.fence (a := a.toAmsl _) (b := b.toAmsl _)]
    · rw [(place a).1, (place b).1, hlat]
    · rw [(place a).2, (place b).2, hlon]
    · rw [Item.altitude_toAmsl, Item.altitude_toAmsl, h.altitude hlocated]
  · rw [if_neg hlocated, if_neg hlocated]

theorem compareWithHome_congr (hposition : ctx.hasPosition = Item.hasPosition) (h : a.Indistinct ctx.vehicle b)
    (index : Nat) (warnings : List Finding) :
    compareWithHome ctx index a warnings = compareWithHome ctx index b warnings := by
  unfold compareWithHome
  dsimp only
  rw [hposition, h.hasPosition, h.unresolved]
  by_cases hlocated : a.hasPosition = true
  · rw [h.altitude hlocated]
  · simp only [Bool.not_eq_true] at hlocated
    simp only [hlocated, Bool.and_false]

theorem visitTakeoff_congr (h : a.Indistinct vehicle b) (index : Nat) (seen : TakeoffScan) :
    visitTakeoff vehicle index a seen = visitTakeoff vehicle index b seen := by
  unfold visitTakeoff
  rw [h.isTakeoff, h.capability]
  by_cases htakeoff : isTakeoff a = true
  · obtain ⟨least, low⟩ := h.climb htakeoff
    rw [least, low]
  · have hother : (!isTakeoff a) = true := by simpa using htakeoff
    rw [if_pos hother, if_pos hother]

theorem approachDistance_congr {approach approach' : Item} (hplace : approach.hasPosition = true)
    (happroach : approach.Indistinct ctx.vehicle approach') (hlocated : a.hasPosition = true)
    (h : a.Indistinct ctx.vehicle b) (index : Nat) :
    approachDistance ctx index approach a = approachDistance ctx index approach' b := by
  obtain ⟨hlat, hlon⟩ := h.place hlocated
  obtain ⟨hlat', hlon'⟩ := happroach.place hplace
  unfold approachDistance
  rw [happroach.carries, happroach.carries, hlat, hlon, hlat', hlon']
  by_cases horbit : approach.carries .loiterToAlt = true
  · rw [happroach.orbit horbit]
  · rw [if_neg horbit, if_neg horbit]

theorem approachFault_congr (hposition : ctx.hasPosition = Item.hasPosition) {approach approach' : Item}
    (happroach : approach.Indistinct ctx.vehicle approach') (hlocated : a.hasPosition = true)
    (h : a.Indistinct ctx.vehicle b) (angle : Float) (index : Nat) :
    approachFault ctx angle index approach a = approachFault ctx angle index approach' b := by
  rw [approachFault_eq, approachFault_eq, hposition, happroach.hasPosition]
  by_cases hplace : approach.hasPosition = true
  · have height : approachHeight ctx.vehicle approach a = approachHeight ctx.vehicle approach' b := by
      rw [approachHeight, approachHeight, happroach.altitude hplace, h.altitude hlocated]
    rw [height, approachDistance_congr hplace happroach hlocated h]
  · have hlost : (!approach.hasPosition) = true := by simpa using hplace
    rw [if_pos hlost, if_pos hlost]

theorem read_congr (id id' : String) (hitems : List.Forall₂ R items items') {index : Nat} (hi : index < items.length) :
    ∃ item item', R item item' ∧ ((ctx.onList id items).read index).run () = (.ok item, ()) ∧
      ((ctx.onList id' items').read index).run () = (.ok item', ()) := by
  have hi' : index < items'.length := hitems.length_eq ▸ hi
  refine ⟨items[index], items'[index], hitems.get hi hi', ?_, ?_⟩
  · exact Prod.ext (itemAt_eq_ok.mpr (List.getElem?_eq_getElem hi)) rfl
  · exact Prod.ext (itemAt_eq_ok.mpr (List.getElem?_eq_getElem hi')) rfl

theorem fixedWingStep_congr (hposition : ctx.hasPosition = Item.hasPosition) (id id' : String)
    (hitems : List.Forall₂ (Item.Indistinct ctx.vehicle) items items') (hland : isLand a = true)
    (h : a.Indistinct ctx.vehicle b) {index : Nat} (hi : index < items.length) :
    (fixedWingStep (ctx.onList id items) index a).run () = (fixedWingStep (ctx.onList id' items') index b).run () := by
  have hlocated : a.hasPosition = true := Item.hasPosition_of_carries hland
  have known (id : String) (items : List Item) :
      (ctx.onList id items).vehicle.landingAngle = ctx.vehicle.landingAngle := rfl
  cases hangle : ctx.vehicle.landingAngle with
  | none =>
    rw [fixedWingStep_missing ((known id items).trans hangle), fixedWingStep_missing ((known id' items').trans hangle)]
  | some angle =>
    rw [fixedWingStep_angle ((known id items).trans hangle), fixedWingStep_angle ((known id' items').trans hangle)]
    by_cases hstart : index = 0
    · rw [if_pos hstart, if_pos hstart]
    · obtain ⟨approach, approach', happroach, hread, hread'⟩ := read_congr id id' hitems (show index - 1 < _ by omega)
      rw [if_neg hstart, if_neg hstart, Reads.run_bind, Reads.run_bind, hread, hread']
      exact congrArg (fun x => (x, ())) (approachFault_congr hposition happroach hlocated h angle index)

theorem vtolStep_congr (id id' : String) (hitems : List.Forall₂ R items items') (a b : Item) {index : Nat}
    (hi : index < items.length) :
    (vtolStep (ctx.onList id items) index a).run () = (vtolStep (ctx.onList id' items') index b).run () := by
  rw [vtolStep_eq, vtolStep_eq]
  by_cases hstart : index = 0
  · rw [if_pos hstart, if_pos hstart]
  · obtain ⟨approach, approach', -, hread, hread'⟩ := read_congr id id' hitems (show index - 1 < _ by omega)
    rw [if_neg hstart, if_neg hstart, Reads.run_bind, Reads.run_bind, hread, hread']

theorem landingSequence_congr (id id' : String) {rules : LandingRules Unit} (hcount : ctx.count = items.length)
    (hitems : List.Forall₂ (Item.Indistinct ctx.vehicle) items items')
    (lands : ∀ item item', Item.Indistinct ctx.vehicle item item' → rules.lands item' = rules.lands item)
    (steps : ∀ index < items.length, ∀ item item', Item.Indistinct ctx.vehicle item item' → rules.lands item = true →
      (rules.step (ctx.onList id items) index item).run () = (rules.step (ctx.onList id' items') index item').run ()) :
    (landingSequence rules (ctx.onList id items) flags).run () =
      (landingSequence rules (ctx.onList id' items') flags).run () := by
  rw [landingSequence_eq, landingSequence_eq]
  apply settle_congr id id' hcount hitems
  intro index hi item item' seen hitem
  have start : seen.start index item' = seen.start index item := by
    rw [LandingScan.start, LandingScan.start, hitem.carries]
  rw [visitLanding_eq, visitLanding_eq, hitem.carries, hitem.carries, start, lands item item' hitem]
  by_cases hagain : (item.carries .doLandStart && seen.landing) = true
  · rw [if_pos hagain, if_pos hagain]
  · rw [if_neg hagain, if_neg hagain]
    by_cases hlands : rules.lands item = true
    · rw [if_pos hlands, if_pos hlands, Reads.run_bind, Reads.run_bind, Reads.run_attempt, Reads.run_attempt,
        steps index hi item item' hitem hlands]
    · rw [if_neg hlands, if_neg hlands]

section

variable (hposition : ctx.hasPosition = Item.hasPosition) (id id' : String) (hcount : ctx.count = items.length)
  (hitems : List.Forall₂ (Item.Indistinct ctx.vehicle) items items')

include hcount hitems

theorem validity_congr :
    (validity (ctx.onList id items) flags).run () = (validity (ctx.onList id' items') flags).run () := by
  rw [validity_eq, validity_eq]
  apply settle_congr id id' hcount hitems
  intro index _ item item' seen hitem
  exact congrArg (fun x => (stopAt seen <$> x, ())) (invalidity_congr hitem index)

theorem takeoff_congr :
    (takeoff (ctx.onList id items) flags).run () = (takeoff (ctx.onList id' items') flags).run () := by
  rw [takeoff_eq, takeoff_eq]
  apply settle_congr id id' hcount hitems
  intro index _ item item' seen hitem
  exact congrArg (fun x => (Except.ok x, ())) (visitTakeoff_congr hitem index seen)

include hposition

theorem first_congr :
    (Pass.first limit (ctx.onList id items) flags).run () =
      (Pass.first limit (ctx.onList id' items') flags).run () := by
  rw [first_eq, first_eq]
  apply settle_congr id id' hcount hitems
  intro index _ item item' seen hitem
  exact congrArg (fun x => (x, ())) (measureFirst_congr hposition id id' hitem index)

theorem betweenDistance_congr :
    (betweenDistance limit (ctx.onList id items) flags).run () =
      (betweenDistance limit (ctx.onList id' items') flags).run () := by
  rw [betweenDistance_eq, betweenDistance_eq]
  apply settle_matches id id' hcount hitems (whenOff limit flags) (S := Kept ctx.vehicle) .none
  · intro index _ item item' last last' hitem hlast
    exact measureNeighbour_matches hposition hitem index hlast
  · intro progress progress' h
    cases h <;> rfl

theorem fence_congr :
    (fence (ctx.onList id items) flags).run () = (fence (ctx.onList id' items') flags).run () := by
  rw [fence_eq, fence_eq]
  apply settle_congr id id' hcount hitems
  intro index _ item item' seen hitem
  exact congrArg (fun x => (stopAt seen <$> x, ())) (fenceBreach_congr hposition hitem index)

theorem homeAltitude_congr :
    (homeAltitude (ctx.onList id items) flags).run () = (homeAltitude (ctx.onList id' items') flags).run () := by
  rw [homeAltitude_eq, homeAltitude_eq]
  apply settle_congr id id' hcount hitems
  intro index _ item item' warnings hitem
  exact congrArg (fun x => (Except.ok x, ())) (compareWithHome_congr hposition hitem index warnings)

theorem landing_congr (airframe : Airframe) :
    (landing airframe (ctx.onList id items) flags).run () =
      (landing airframe (ctx.onList id' items') flags).run () := by
  cases airframe with
  | rotaryWing =>
    change (anyLanding (ctx.onList id items) flags).run () = (anyLanding (ctx.onList id' items') flags).run ()
    rw [anyLanding_eq, anyLanding_eq]
    apply settle_congr id id' hcount hitems
    intro index _ item item' found hitem
    rw [isLand, isLand, hitem.carries]
  | fixedWing =>
    apply landingSequence_congr id id' hcount hitems
    · intro item item' hitem
      exact hitem.carries .land
    · intro index hi item item' hitem hland
      exact fixedWingStep_congr hposition id id' hitems hland hitem hi
  | vtol =>
    apply landingSequence_congr id id' hcount hitems
    · intro item item' hitem
      change (item'.carries .land || item'.carries .vtolLand) = (item.carries .land || item.carries .vtolLand)
      rw [hitem.carries, hitem.carries]
    · intro index hi item item' _ _
      exact vtolStep_congr id id' hitems item item' hi

end

end Check

end Preflight
