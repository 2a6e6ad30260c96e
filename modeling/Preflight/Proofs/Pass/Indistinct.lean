import Preflight.Proofs.Check.Indistinct
import Preflight.Proofs.Pass.Stored

namespace Preflight

variable {σ τ : Type} {items items' : List Item}

section

variable {ctx : Context σ} (hposition : ctx.hasPosition = Item.hasPosition) (id id' : String)
  (hcount : ctx.count = items.length) (hitems : List.Forall₂ (Item.Indistinct ctx.vehicle) items items')

include hposition hcount hitems

theorem Context.check_congr (limits : Limits) (stage : Stage) (flags : Flags) :
    ((ctx.onList id items).check limits stage flags).run () =
      ((ctx.onList id' items').check limits stage flags).run () := by
  cases stage with
  | first => exact Check.first_congr hposition id id' hcount hitems
  | validity => exact Check.validity_congr id id' hcount hitems
  | between => exact Check.betweenDistance_congr hposition id id' hcount hitems
  | fence => exact Check.fence_congr hposition id id' hcount hitems
  | homeAltitude => exact Check.homeAltitude_congr hposition id id' hcount hitems
  | takeoff => exact Check.takeoff_congr id id' hcount hitems
  | landing => exact Check.landing_congr hposition id id' hcount hitems ctx.vehicle.airframe
  | presence =>
    change (Check.presence (ctx.onList id items) flags).run () = (Check.presence (ctx.onList id' items') flags).run ()
    rw [Check.presence_run, Check.presence_run]
    rfl

theorem Pass.runAll_congr (limits : Limits) (stages : List Stage) (flags : Flags) :
    runAll (ctx.onList id items) (stages.map (Stage.check ctx.vehicle.airframe limits)) flags () =
      runAll (ctx.onList id' items') (stages.map (Stage.check ctx.vehicle.airframe limits)) flags () := by
  induction stages generalizing flags with
  | nil => rfl
  | cons stage rest ih =>
    have same : (stage.check ctx.vehicle.airframe limits (ctx.onList id items) flags).run () =
        (stage.check ctx.vehicle.airframe limits (ctx.onList id' items') flags).run () :=
      Context.check_congr hposition id id' hcount hitems limits stage flags
    rw [List.map_cons, runAll, runAll, same]
    rcases (stage.check ctx.vehicle.airframe limits (ctx.onList id' items') flags).run () with ⟨fault | outcome, ⟨⟩⟩
    · rfl
    · dsimp only
      rw [ih]

end

def Checker.withSource (c : Checker σ) (read : Source τ) : Checker τ := { c with read }

theorem Checker.verdict_congr {c : Checker σ} {read : Source τ} (hposition : c.hasPosition = Item.hasPosition)
    {mission mission' : Mission} {store : σ} {store' : τ} (hheld : c.Holds mission items store)
    (hheld' : (c.withSource read).Holds mission' items' store')
    (hitems : List.Forall₂ (Item.Indistinct c.vehicle) items items') (limits : Limits) :
    (c.check mission limits store).verdict = ((c.withSource read).check mission' limits store').verdict := by
  have hcount : mission.count = mission'.count := by
    rw [hheld.1, hheld'.1, hitems.length_eq]
  by_cases hpos : 0 < mission.count
  · have listed : ((c.withSource read).context mission').onList mission'.storageId items' =
        (c.context mission).onList mission'.storageId items' := by
      simp only [Context.onList, Context.withRead, context, hcount]
      rfl
    rw [verdict_onList hheld hpos, verdict_onList hheld' (hcount ▸ hpos), listed]
    exact congrArg Pass.Trace.verdict
      (Pass.runAll_congr hposition mission.storageId mission'.storageId hheld.context.1 hitems limits Stage.all {})
  · rw [check, check, if_pos (by omega), if_pos (by omega)]

structure Item.SameMeaning (a b : Item) : Prop where
  code : a.code = b.code
  relative : a.relative = b.relative
  place : a.hasPosition = true → a.lat = b.lat ∧ a.lon = b.lon ∧ a.altitude = b.altitude
  acceptanceRadius : a.carries .takeoff = true ∨ a.carries .vtolTakeoff = true →
    a.acceptanceRadius = b.acceptanceRadius
  loiterRadius : a.carries .loiterToAlt = true → a.loiterRadius = b.loiterRadius
  servo : a.carries .doSetServo = true → a.params[0] = b.params[0] ∧ a.params[1] = b.params[1]

theorem Item.SameMeaning.indistinct {a b : Item} (h : a.SameMeaning b) (vehicle : Vehicle) :
    a.Indistinct vehicle b where
  code := h.code
  place := by
    intro hlocated
    obtain ⟨hlat, hlon, -⟩ := h.place hlocated
    exact ⟨hlat, hlon⟩
  altitude := by
    intro hlocated
    obtain ⟨-, -, haltitude⟩ := h.place hlocated
    rw [altitudeAmsl, altitudeAmsl, h.relative, haltitude]
  unplaced := by rw [h.relative]
  unresolved := by rw [h.relative]
  climb := by
    intro htakeoff
    have carried : a.carries .takeoff = true ∨ a.carries .vtolTakeoff = true := by
      simpa [Check.isTakeoff] using htakeoff
    have hlocated : a.hasPosition = true := by
      rcases carried with carried | carried
      · exact hasPosition_of_carries carried
      · exact hasPosition_of_carries carried
    obtain ⟨-, -, haltitude⟩ := h.place hlocated
    have least : Check.leastHeight vehicle a = Check.leastHeight vehicle b := by
      rw [Check.leastHeight, Check.leastHeight, h.acceptanceRadius carried]
    have height : Check.heightAboveHome vehicle a = Check.heightAboveHome vehicle b := by
      rw [Check.heightAboveHome, Check.heightAboveHome, h.relative, haltitude]
    refine ⟨least, ?_⟩
    rw [Check.isTooLow, Check.isTooLow, height, least]
  orbit := h.loiterRadius
  servo := h.servo

theorem verdict_of_sameMeaning (c : Checker σ) (read : Source τ) (mission mission' : Mission) (limits : Limits)
    (store : σ) (store' : τ) (hposition : c.hasPosition = Item.hasPosition) (hheld : c.Holds mission items store)
    (hheld' : (c.withSource read).Holds mission' items' store')
    (hsame : List.Forall₂ Item.SameMeaning items items') :
    (c.check mission limits store).verdict = ((c.withSource read).check mission' limits store').verdict :=
  Checker.verdict_congr hposition hheld hheld' (hsame.imp fun _ _ same => same.indistinct c.vehicle) limits

theorem verdict_of_sameMeaning_placeholders :
    let items : List Item :=
      [{ code := Command.doChangeSpeed.code, lat := 12.5, lon := -7.0, altitude := 9000.0, acceptanceRadius := 3.0 },
        { code := Command.waypoint.code, lat := 47.39, lon := 8.54, altitude := 40.0, loiterRadius := 75.0 }]
    let items' : List Item :=
      [{ code := Command.doChangeSpeed.code, params := .ofList [0.0, 5.0] },
        { code := Command.waypoint.code, lat := 47.39, lon := 8.54, altitude := 40.0, params := .ofList [1.0] }]
    let c : Checker MemoryStore :=
      { read := MemoryStore.read, vehicle := { home := .ofNumbers 47.39 8.54 488.0 } }
    let answer (id : String) (items : List Item) : Answer MemoryStore :=
      c.check (MemoryStore.handle id items) { first := .meters 900.0, between := .meters 2000.0 }
        (MemoryStore.insert {} id items)
    (answer "survey" items).verdict = (answer "copy" items').verdict ∧ (answer "copy" items').Accepts := by
  intro items items' c answer
  have held (id : String) (items : List Item) :
      c.Holds (MemoryStore.handle id items) items (MemoryStore.insert {} id items) :=
    Checker.holds_memory rfl (MemoryStore.find?_insert_self {} id items)
  have same : List.Forall₂ Item.SameMeaning items items' := by
    refine .cons ?_ (.cons ?_ .nil)
    · exact ⟨rfl, rfl, fun h => absurd h (by decide), fun h => absurd h (by decide), fun h => absurd h (by decide),
        fun h => absurd h (by decide)⟩
    · exact ⟨rfl, rfl, fun _ => ⟨rfl, rfl, rfl⟩, fun h => absurd h (by decide), fun h => absurd h (by decide),
        fun h => absurd h (by decide)⟩
  have accepts : (answer "copy" items').Accepts := by decide +kernel
  exact ⟨verdict_of_sameMeaning c MemoryStore.read _ _ _ _ _ rfl (held "survey" items) (held "copy" items') same,
    accepts⟩

end Preflight
