import Preflight.Proofs.Fence.Areas
import Preflight.Proofs.Pass.Stored

namespace Preflight

variable {σ α β : Type} {tight loose : Geofence} {limits : Limits}

structure Geofence.Tightens (tight loose : Geofence) : Prop where
  home : tight.isHomeRequired = loose.isHomeRequired
  usable : loose.isUsable = true → tight.isUsable = true
  permits : ∀ item, tight.check item = .ok true → loose.check item = .ok true

theorem Geofence.tightens_exclude {polygons polygons' : List Polygon} {circles circles' : List Circle}
    {ceiling : Option Float} {homeRequired : Bool} {area : Area}
    (more : AreaFence.Adds area polygons circles polygons' circles') (exclusion : area.inclusion = false) :
    Tightens (.areas (.build polygons' circles' ceiling homeRequired))
      (.areas (.build polygons circles ceiling homeRequired)) where
  home := rfl
  usable := by
    intro usable
    by_contra unusable
    obtain ⟨none, unlimited⟩ := AreaFence.isUsable_build.mp (Bool.eq_false_iff.mpr unusable)
    have before : (AreaFence.build polygons circles ceiling homeRequired).isUsable = false :=
      AreaFence.isUsable_build.mpr
        ⟨fun other kept => none other ((AreaFence.kept_of_adds more).mpr (.inl kept)), unlimited⟩
    exact nomatch before.symm.trans usable
  permits := fun _ => AreaFence.check_exclude more exclusion

theorem scan_going_mono {read : Nat → Reads σ Item} {visit visit' : Nat → Item → α → Reads σ (Progress α β)}
    (visits : ∀ index item seen next store after, (visit index item seen).run store = (.ok (.going next), after) →
      (visit' index item seen).run store = (.ok (.going next), after))
    {count index : Nat} {seen final : α} {store after : σ}
    (h : (scan read visit count index seen).run store = (.ok (.going final), after)) :
    (scan read visit' count index seen).run store = (.ok (.going final), after) := by
  induction count generalizing index seen store with
  | zero => exact h
  | succ count ih =>
    rw [scan_succ] at h ⊢
    rcases hvisit : (read index >>= fun item => visit index item seen).attempt.run store with
      ⟨fault | reason | progress, mid⟩
    all_goals rw [hvisit] at h
    · simp at h
    · simp at h
    · cases progress with
      | going next =>
        -- A visit that goes on is the same under both, so the scans come to the next item alike.
        obtain ⟨item, between, hread, goes⟩ := Reads.bind_ok (Reads.attempt_ok hvisit)
        have same : (read index >>= fun item => visit' index item seen).attempt.run store =
            (.ok (.ok (.going next)), mid) := by
          rw [Reads.run_attempt, Reads.run_bind, hread]
          dsimp only
          rw [visits index item seen next between mid goes]
        rw [same]
        exact ih h
      | stopped result => simp at h
      | unreadable reason next => simp at h

theorem run_settle_of_scan {ctx : Context σ} {start : α} {visit : Nat → Item → α → Reads σ (Progress α β)}
    {close : Progress α β → Outcome} {store after : σ} {progress : Progress α β}
    (scanned : (ctx.scan start visit).run store = (.ok progress, after)) :
    (ctx.settle (.ok none) start visit close).run store = (.ok (close progress), after) := by
  change (ctx.scan start visit >>= fun progress => pure (close progress)).run store = _
  rw [Reads.run_bind, scanned]
  rfl

def Context.fencedBy (ctx : Context σ) (fence : Geofence) : Context σ := { ctx with fence }

def Checker.fencedBy (c : Checker σ) (fence : Geofence) : Checker σ := { c with fence }

namespace Check

variable {ctx : Context σ} {flags : Flags} {outcome : Outcome} {store after : σ}

theorem fenceBreach_loosened (h : tight.Tightens loose) {index : Nat} {item : Item}
    (kept : fenceBreach (ctx.fencedBy tight) index item = .ok none) :
    fenceBreach (ctx.fencedBy loose) index item = .ok none := by
  rw [fenceBreach_eq] at kept ⊢
  by_cases homeless : (item.relative && !ctx.vehicle.home.known) = true
  · change (if (item.relative && !ctx.vehicle.home.known) = true then _ else _) = _ at kept
    rw [if_pos homeless] at kept
    exact nomatch kept
  · change (if (item.relative && !ctx.vehicle.home.known) = true then _ else _) = _ at kept ⊢
    rw [if_neg homeless] at kept ⊢
    change (if ctx.hasPosition (item.toAmsl ctx.vehicle.home.altitude) = true then _ else _) = _ at kept ⊢
    by_cases placed : ctx.hasPosition (item.toAmsl ctx.vehicle.home.altitude) = true
    · rw [if_pos placed] at kept ⊢
      obtain ⟨inside, checked, none⟩ := Fault.map_ok kept
      cases inside with
      | true =>
        have permitted : loose.check (item.toAmsl ctx.vehicle.home.altitude) = .ok true := h.permits _ checked
        change _ <$> loose.check (item.toAmsl ctx.vehicle.home.altitude) = _
        rw [permitted]
        rfl
      | false => exact nomatch none
    · rw [if_neg placed]

theorem whenUnfenced_congr (home : tight.isHomeRequired = loose.isHomeRequired)
    (usable : tight.isUsable = loose.isUsable) :
    whenUnfenced (ctx.fencedBy tight) flags = whenUnfenced (ctx.fencedBy loose) flags := by
  unfold whenUnfenced Context.fencedBy
  dsimp only
  rw [home, usable]

theorem whenUnfenced_pass (home : tight.isHomeRequired = loose.isHomeRequired)
    (undecided : whenUnfenced (ctx.fencedBy tight) flags = none) (unusable : loose.isUsable = false) :
    whenUnfenced (ctx.fencedBy loose) flags = some (.pass flags) := by
  unfold whenUnfenced Context.fencedBy at undecided ⊢
  dsimp only at undecided ⊢
  rw [home] at undecided
  rw [unusable]
  by_cases homeless : (loose.isHomeRequired && !ctx.vehicle.home.known) = true
  · rw [if_pos homeless] at undecided
    exact nomatch undecided
  · rw [if_neg homeless]
    rfl

theorem fence_loosened (h : tight.Tightens loose)
    (ran : (fence (ctx.fencedBy tight) flags).run store = (.ok outcome, after)) (passed : outcome.passed = true) :
    ∃ after', (fence (ctx.fencedBy loose) flags).run store = (.ok outcome, after') ∧
      (loose.isUsable = true → after' = after) := by
  rw [fence_eq] at ran ⊢
  rcases settle_ok ran with ⟨decided, rfl⟩ | ⟨undecided, progress, scanned, rfl⟩
  · have decided : whenUnfenced (ctx.fencedBy tight) flags = some outcome := Except.ok.inj decided
    have unusable : tight.isUsable = false := whenUnfenced_passed decided passed
    have same : tight.isUsable = loose.isUsable := by
      cases usable : loose.isUsable with
      | true => exact nomatch unusable.symm.trans (h.usable usable)
      | false => exact unusable
    rw [whenUnfenced_congr h.home same] at decided
    exact ⟨after, by rw [decided]; rfl, fun _ => rfl⟩
  · have undecided : whenUnfenced (ctx.fencedBy tight) flags = none := Except.ok.inj undecided
    cases progress with
    | stopped finding => exact nomatch passed
    | unreadable reason seen => exact nomatch passed
    | going seen =>
      cases usable : loose.isUsable with
      | false =>
        rw [whenUnfenced_pass h.home undecided usable]
        exact ⟨store, rfl, nofun⟩
      | true =>
        have same : tight.isUsable = loose.isUsable := (h.usable usable).trans usable.symm
        rw [whenUnfenced_congr h.home same] at undecided
        rw [undecided]
        refine ⟨after, run_settle_of_scan (scan_going_mono ?_ scanned), fun _ => rfl⟩
        intro index item seen next store after visited
        obtain ⟨answered, rfl⟩ := Prod.mk.inj visited
        obtain ⟨finding, breach, goes⟩ := Fault.map_ok answered
        cases finding with
        | none =>
          rw [fenceBreach_loosened h breach]
          exact Prod.ext (congrArg Except.ok goes) rfl
        | some finding => exact nomatch goes

end Check

theorem Context.check_fencedBy {stage : Stage} (other : stage ≠ .fence) (ctx : Context σ) (flags : Flags) :
    (ctx.fencedBy tight).check limits stage flags = (ctx.fencedBy loose).check limits stage flags := by
  cases stage with
  | fence => exact absurd rfl other
  | landing =>
    change Check.landing ctx.vehicle.airframe _ flags = Check.landing ctx.vehicle.airframe _ flags
    cases ctx.vehicle.airframe <;> rfl
  | _ => rfl

namespace Pass

variable {ctx : Context σ} {stages : List Stage} {flags : Flags} {store : σ}

theorem clears_loosened (h : tight.Tightens loose) (usable : loose.isUsable = true)
    (cleared : Clears (ctx.fencedBy tight) limits stages flags store) :
    Clears (ctx.fencedBy loose) limits stages flags store := by
  induction stages generalizing flags store with
  | nil => trivial
  | cons stage rest ih =>
    obtain ⟨outcome, after, ran, passed, cleared⟩ := cleared
    have ran' : ((ctx.fencedBy loose).check limits stage flags).run store = (.ok outcome, after) := by
      by_cases fenced : stage = .fence
      · subst fenced
        obtain ⟨after', ran', same⟩ := Check.fence_loosened h ran passed
        rw [← same usable]
        exact ran'
      · rwa [Context.check_fencedBy fenced] at ran
    exact ⟨outcome, after, ran', passed, ih cleared⟩

theorem passed_of_clears (cleared : Clears ctx limits stages flags store) :
    (runAll ctx (stages.map (Stage.check ctx.vehicle.airframe limits)) flags store).fault = none ∧
      ∀ outcome ∈ (runAll ctx (stages.map (Stage.check ctx.vehicle.airframe limits)) flags store).outcomes,
        outcome.passed = true := by
  induction stages generalizing flags store with
  | nil => exact ⟨rfl, nofun⟩
  | cons stage rest ih =>
    obtain ⟨outcome, after, ran, passed, cleared⟩ := cleared
    change (stage.check ctx.vehicle.airframe limits ctx flags).run store = _ at ran
    rw [List.map_cons, runAll, ran]
    obtain ⟨fault, others⟩ := ih cleared
    exact ⟨fault, List.forall_mem_cons.mpr ⟨passed, others⟩⟩

end Pass

namespace Checker

variable {c : Checker σ} {mission : Mission} {store : σ}

theorem accepts_of_clears (count : 0 < mission.count)
    (cleared : Pass.Clears (c.context mission) limits Stage.all {} store) : (c.check mission limits store).Accepts := by
  obtain ⟨fault, passed⟩ := Pass.passed_of_clears cleared
  rw [Stage.map_check_all] at fault passed
  refine ⟨.ofOutcomes (Pass.run (c.context mission) limits store).outcomes, ?_, List.all_eq_true.mpr passed⟩
  rw [check_of_count count, Pass.Trace.verdict, Pass.run, fault]

theorem accepts_of_tightens (h : tight.Tightens loose) (usable : loose.isUsable = true)
    (accepted : ((c.fencedBy tight).check mission limits store).Accepts) :
    ((c.fencedBy loose).check mission limits store).Accepts := by
  have cleared : Pass.Clears ((c.context mission).fencedBy tight) limits Stage.all {} store := clears_of_accepts accepted
  exact accepts_of_clears (count_pos_of_accepts accepted) (Pass.clears_loosened h usable cleared)

end Checker

open AreaFence in
/-- A fence permits what its areas and its ceiling say, and accepts no more missions with one more area to avoid. -/
theorem areas_combine (polygons : List Polygon) (circles : List Circle) (ceiling : Option Float) (homeRequired : Bool)
    (item : Item) :
    let fence := build polygons circles ceiling homeRequired
    (Decided polygons circles item →
      ∃ inside, fence.check item = .ok inside ∧ (inside = true ↔ Permits polygons circles ceiling item)) ∧
    (∀ polygons' circles', polygons.Perm polygons' → circles.Perm circles' → Decided polygons circles item →
      (build polygons' circles' ceiling homeRequired).check item = fence.check item) ∧
    (∀ area polygons' circles', Adds area polygons circles polygons' circles' →
      let fence' := build polygons' circles' ceiling homeRequired
      (area.hasExtent = false → fence'.check item = fence.check item) ∧
      (area.inclusion = false → fence'.check item = .ok true → fence.check item = .ok true) ∧
      (area.inclusion = true → (∃ other, Kept polygons circles other ∧ other.inclusion = true) →
        Decided polygons' circles' item → fence.check item = .ok true → fence'.check item = .ok true) ∧
      (area.inclusion = false → ∀ {σ : Type},
        (∀ (ctx : Context σ) (flags : Flags) (store : σ) (outcome : Outcome) (after : σ),
          (Check.fence (ctx.fencedBy (.areas fence')) flags).run store = (.ok outcome, after) → outcome.passed = true →
            ∃ after', (Check.fence (ctx.fencedBy (.areas fence)) flags).run store = (.ok outcome, after')) ∧
        ∀ (c : Checker σ) (mission : Mission) (limits : Limits) (store : σ), fence.isUsable = true →
          ((c.fencedBy (.areas fence')).check mission limits store).Accepts →
            ((c.fencedBy (.areas fence)).check mission limits store).Accepts)) ∧
    (∀ ceiling', Lowers ceiling ceiling' → (build polygons circles ceiling' homeRequired).check item = .ok true →
      fence.check item = .ok true) ∧
    (fence.isUsable = false ↔ (∀ area, ¬ Kept polygons circles area) ∧ ceiling = none) ∧
    (fence.isUsable = false → fence.check item = .ok true) := by
  intro fence
  refine ⟨check_build ceiling homeRequired, ?_, ?_, ?_, isUsable_build, check_of_not_usable⟩
  · intro polygons' circles' hpolygons hcircles decided
    exact check_perm hpolygons hcircles decided
  · intro area polygons' circles' more fence'
    refine ⟨check_degenerate more, check_exclude more, check_include more, ?_⟩
    intro exclusion σ
    have tightens : Geofence.Tightens (.areas fence') (.areas fence) := Geofence.tightens_exclude more exclusion
    constructor
    · intro ctx flags store outcome after ran passed
      obtain ⟨after', ran', -⟩ := Check.fence_loosened tightens ran passed
      exact ⟨after', ran'⟩
    · intro c mission limits store usable accepted
      exact Checker.accepts_of_tightens tightens usable accepted
  · intro ceiling' lower inside
    exact check_lower lower inside

open AreaFence in
theorem areas_combine_circles :
    let stay : Circle := ⟨⟨47.39, 8.54⟩, 2000.0, true⟩
    let avoid : Circle := ⟨⟨47.38, 8.54⟩, 100.0, false⟩
    let takeoff : Item := { code := Command.takeoff.code, lat := 47.391, lon := 8.54, altitude := 30.0 }
    let land : Item := { code := Command.land.code, lat := 47.395, lon := 8.54 }
    let c : Checker MemoryStore :=
      { read := MemoryStore.read, vehicle := { home := .ofNumbers 47.39 8.54 488.0, presence := Presence.both.number } }
    let mission := MemoryStore.handle "m" [takeoff, land]
    let store := MemoryStore.insert {} "m" [takeoff, land]
    Permits [] [stay, avoid] none takeoff ∧
      (build [] [avoid, stay] none false).check takeoff = .ok true ∧
      ((c.fencedBy (.areas (build [] [stay] none false))).check mission {} store).Accepts := by
  intro stay avoid takeoff land c mission store
  have inside : (build [] [stay, avoid] none false).check takeoff = .ok true := by decide +kernel
  have decided : Decided [] [stay, avoid] takeoff := by
    have reached : (Area.circle stay).contains takeoff.lat takeoff.lon = .ok true := by decide +kernel
    have avoided : (Area.circle avoid).contains takeoff.lat takeoff.lon = .ok false := by decide +kernel
    rintro _ (⟨given, -⟩ | ⟨given, -⟩)
    · exact nomatch given
    · simp only [List.mem_cons, List.not_mem_nil, or_false] at given
      rcases given with rfl | rfl
      · rw [reached]
        exact not_breaks_ok true
      · rw [avoided]
        exact not_breaks_ok false
  obtain ⟨combined, reordered, -⟩ := areas_combine [] [stay, avoid] none false takeoff
  obtain ⟨found, checked, permits⟩ := combined decided
  have permitted : Permits [] [stay, avoid] none takeoff := permits.mp (Except.ok.inj (checked.symm.trans inside))
  have swapped := reordered [] [avoid, stay] (.refl _) (.swap _ _ _) decided
  obtain ⟨-, -, added, -⟩ := areas_combine [] [stay] none false takeoff
  obtain ⟨-, -, -, lifted⟩ := added (.circle avoid) [] [stay, avoid] (.circle avoid [] [stay] [])
  have accepted : ((c.fencedBy (.areas (build [] [stay, avoid] none false))).check mission {} store).Accepts := by
    decide +kernel
  exact ⟨permitted, swapped.trans inside, (lifted rfl).2 c mission {} store (by decide) accepted⟩

end Preflight
