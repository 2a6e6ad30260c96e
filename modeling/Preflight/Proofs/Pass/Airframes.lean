import Preflight.Proofs.Check.Descent
import Preflight.Proofs.Check.VtolLanding
import Preflight.Proofs.Pass.Stored

namespace Preflight

variable {σ : Type} {ctx : Context σ} {limits : Limits} {flags : Flags} {id : String} {items : List Item}

namespace Check

theorem isVtolLanding_eq_isLand {item : Item} (h : item.carries .vtolLand = false) :
    isVtolLanding item = isLand item := by
  rw [isVtolLanding, h, Bool.or_false, isLand]

theorem InLandingOrder.congr {lands lands' : Item → Bool} (h : InLandingOrder lands items)
    (same : ∀ item ∈ items, lands' item = lands item) : InLandingOrder lands' items := by
  refine ⟨h.once, h.started.imp_of_mem fun {a b} ha _ apart => ?_, h.ended.imp_of_mem fun {a b} ha _ apart => ?_⟩
  · rwa [same a ha]
  · rwa [same a ha]

theorem FixedWingSequence.vtolSequence (h : FixedWingSequence ctx items)
    (hvtol : ∀ item ∈ items, item.carries .vtolLand = false) : VtolSequence items := by
  have same : ∀ item ∈ items, isVtolLanding item = isLand item := fun item hitem =>
    isVtolLanding_eq_isLand (hvtol item hitem)
  constructor
  case airborne =>
    intro first hfound
    rw [same first (List.mem_of_getElem? hfound)]
    cases hland : isLand first with
    | false => rfl
    | true =>
      obtain ⟨_, _, -, impossible, -⟩ := h.descends 0 first hfound hland
      exact absurd impossible (Nat.lt_irrefl 0)
  case order => exact h.order.congr same
  case served =>
    intro index start _ hfound hstart
    obtain ⟨later, land, hlater, hlast, hland⟩ := h.served index start hfound hstart
    exact ⟨later, land, hlater, hlast, (same land (List.mem_of_getElem? hlast)).trans hland⟩

theorem landing_alike (hcount : ctx.count = items.length) (hlanding : flags.landing = false)
    (hvtol : ∀ item ∈ items, item.carries .vtolLand = false) {outcome : Outcome}
    (answer : ((landing .fixedWing (ctx.onList id items) flags).run ()).1 = .ok outcome)
    (passed : outcome.passed = true) (airframe : Airframe) :
    ((landing airframe (ctx.onList id items) flags).run ()).1 = .ok outcome := by
  have recorded := outcome_of_fixedWing hcount hlanding answer passed
  cases airframe with
  | fixedWing => exact answer
  | rotaryWing =>
    rw [recorded]
    exact run_anyLanding hcount
  | vtol =>
    have sequence := (fixedWingLanding_onList hcount hlanding).mp ⟨outcome, answer, passed⟩
    have passes : Passes ((vtolLanding (ctx.onList id items) flags).run ()).1 :=
      (vtolLanding_onList hcount hlanding).mpr (sequence.vtolSequence hvtol)
    obtain ⟨other, answer', passed'⟩ := passes
    have opens : items.any (opensLanding isVtolLanding) = items.any isLand := by
      rw [← sequence.any_opensLanding, Bool.eq_iff_iff, List.any_eq_true, List.any_eq_true]
      refine exists_congr fun item => and_congr_right fun hitem => ?_
      rw [opensLanding, opensLanding, isVtolLanding_eq_isLand (hvtol item hitem)]
    rw [recorded, ← opens, ← landing_of_passed vtolRules apart_isVtolLanding hcount hlanding answer' passed']
    exact answer'

end Check

def Context.flownBy (ctx : Context σ) (airframe : Airframe) : Context σ :=
  { ctx with vehicle := { ctx.vehicle with airframe } }

theorem check_flownBy (airframe : Airframe) {stage : Stage} (hstage : stage ≠ .landing) :
    (ctx.flownBy airframe).check limits stage flags = ctx.check limits stage flags := by
  cases stage with
  | landing => exact absurd rfl hstage
  | _ => rfl

theorem landing_flownBy (ctx : Context σ) (airframe : Airframe) (flags : Flags) :
    (ctx.flownBy airframe).check limits .landing flags = Check.landing airframe ctx flags := by
  cases airframe <;> rfl

section

variable (hcount : ctx.count = items.length) (hairframe : ctx.vehicle.airframe = .fixedWing)
  (hvtol : ∀ item ∈ items, item.carries .vtolLand = false)

include hcount hairframe hvtol

theorem check_alike (airframe : Airframe) {stage : Stage} (hlanding : stage = .landing → flags.landing = false)
    {outcome : Outcome} (ran : ((ctx.onList id items).check limits stage flags).run () = (.ok outcome, ()))
    (passed : outcome.passed = true) :
    (((ctx.onList id items).flownBy airframe).check limits stage flags).run () = (.ok outcome, ()) := by
  by_cases hstage : stage = .landing
  · subst hstage
    have answer : ((Check.landing ctx.vehicle.airframe (ctx.onList id items) flags).run ()).1 = .ok outcome :=
      congrArg Prod.fst ran
    rw [hairframe] at answer
    rw [landing_flownBy]
    exact Prod.ext (Check.landing_alike hcount (hlanding rfl) hvtol answer passed airframe) rfl
  · rw [check_flownBy airframe hstage]
    exact ran

theorem runAll_flownBy (airframe : Airframe) {stages : List Stage} (hnodup : stages.Nodup)
    (hlanding : .landing ∈ stages → flags.landing = false)
    (h : Pass.Clears (ctx.onList id items) limits stages flags ()) :
    Pass.runAll ((ctx.onList id items).flownBy airframe) (stages.map (Stage.check airframe limits)) flags () =
      Pass.runAll (ctx.onList id items) (stages.map (Stage.check ctx.vehicle.airframe limits)) flags () := by
  -- The outcome of a check is the same for both airframes, and so are the flags that the next one starts from.
  induction stages generalizing flags with
  | nil => rfl
  | cons stage rest ih =>
    obtain ⟨outcome, ⟨⟩, ran, passed, cleared⟩ := h
    have alike := check_alike hcount hairframe hvtol airframe (fun hstage => hlanding (by simp [hstage])) ran passed
    have unrecorded := Context.unrecorded_of_check hnodup hlanding ran
    change (stage.check ctx.vehicle.airframe limits (ctx.onList id items) flags).run () = _ at ran
    change (stage.check airframe limits ((ctx.onList id items).flownBy airframe) flags).run () = _ at alike
    rw [List.map_cons, List.map_cons, Pass.runAll, Pass.runAll, ran, alike]
    dsimp only
    rw [ih (List.nodup_cons.mp hnodup).2 unrecorded cleared]

end

def Checker.flownBy (c : Checker σ) (airframe : Airframe) : Checker σ :=
  { c with vehicle := { c.vehicle with airframe } }

theorem verdict_flownBy_of_accepts (c : Checker σ) (mission : Mission) (limits : Limits) (store : σ)
    (items : List Item) (hheld : c.Holds mission items store) (hairframe : c.vehicle.airframe = .fixedWing)
    (hvtol : ∀ item ∈ items, item.carries .vtolLand = false) (haccepts : (c.check mission limits store).Accepts)
    (airframe : Airframe) :
    ((c.flownBy airframe).check mission limits store).Accepts ∧
      ((c.flownBy airframe).check mission limits store).verdict = (c.check mission limits store).verdict := by
  obtain ⟨hcount, clears⟩ := Checker.clears_onList hheld haccepts
  have nonempty := Checker.count_pos_of_accepts haccepts
  have held : (c.flownBy airframe).Holds mission items store := hheld
  have same : ((c.flownBy airframe).check mission limits store).verdict = (c.check mission limits store).verdict := by
    rw [Checker.verdict_onList hheld nonempty, Checker.verdict_onList held nonempty]
    exact congrArg Pass.Trace.verdict (runAll_flownBy hcount hairframe hvtol airframe (by decide) (fun _ => rfl) clears)
  obtain ⟨verdict, ended, accepted⟩ := haccepts
  exact ⟨⟨verdict, same.trans ended, accepted⟩, same⟩

theorem verdict_flownBy_rotaryWing :
    let items : List Item := [{ code := Command.waypoint.code, lat := 47.39, lon := 8.54, altitude := 40.0 },
      { code := Command.land.code, lat := 47.4, lon := 8.54 }]
    let c : Checker MemoryStore :=
      { read := MemoryStore.read
        vehicle := { airframe := .fixedWing, home := .ofNumbers 47.39 8.54 488.0 } }
    let mission := MemoryStore.handle "m" items
    let store := MemoryStore.insert {} "m" items
    c.Holds mission items store ∧ (c.check mission {} store).Accepts ∧
      ((c.flownBy .rotaryWing).check mission {} store).Accepts := by
  intro items c mission store
  have held : c.Holds mission items store := Checker.holds_memory rfl (MemoryStore.find?_insert_self {} "m" items)
  have accepts : (c.check mission {} store).Accepts := by decide +kernel
  exact ⟨held, accepts,
    (verdict_flownBy_of_accepts c mission {} store items held rfl (by decide) accepts .rotaryWing).1⟩

end Preflight
