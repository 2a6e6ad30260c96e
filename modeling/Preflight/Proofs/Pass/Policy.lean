import Preflight.Proofs.Check.TakeoffList
import Preflight.Proofs.Pass.Stored

namespace Preflight

def Presence.Asks (takesOff lands : Bool) : Presence → Prop
  | anything => True
  | takeoff => takesOff = true
  | landing => lands = true
  | both => takesOff = true ∧ lands = true
  | symmetric => takesOff = true ↔ lands = true

instance (takesOff lands : Bool) : (policy : Presence) → Decidable (policy.Asks takesOff lands)
  | .anything => inferInstanceAs (Decidable True)
  | .takeoff => inferInstanceAs (Decidable (takesOff = true))
  | .landing => inferInstanceAs (Decidable (lands = true))
  | .both => inferInstanceAs (Decidable (takesOff = true ∧ lands = true))
  | .symmetric => inferInstanceAs (Decidable (takesOff = true ↔ lands = true))

def Airframe.lands : Airframe → Item → Bool
  | rotaryWing => Check.isLand
  | fixedWing => Check.isLand
  | vtol => Check.isVtolLanding

variable {σ : Type}

theorem missing_eq_none {policy : Presence} {flags : Flags} :
    Check.missing policy flags = none ↔ policy.Asks flags.takeoff flags.landing := by
  cases policy with
  | symmetric =>
    simp only [Check.missing, Presence.Asks]
    cases flags.takeoff <;> cases flags.landing <;> simp
  | _ => simp [Check.missing, Presence.Asks]

theorem asks_of_clears {ctx : Context σ} {limits : Limits} {id : String} {items : List Item}
    (hcount : ctx.count = items.length) (h : Pass.Clears (ctx.onList id items) limits Stage.all {} ())
    {policy : Presence} (hpolicy : Presence.ofNumber? ctx.vehicle.presence = some policy) :
    policy.Asks (items.any Check.isTakeoff) (Check.recordsLanding items ctx.vehicle.airframe) := by
  obtain ⟨first, _, hfirst, -, validity, _, hvalidity, -, between, _, hbetween, -, fence, _, hfence, -, home, _, hhome,
    -, takeoff, _, htakeoff, took, landing, _, hlanding, landed, presence, _, hpresence, present, -⟩ := h
  have before : home.flags = {} := by
    rw [Check.homeAltitude_flags hhome, Check.fence_flags hfence, Check.betweenDistance_flags hbetween,
      Check.validity_flags hvalidity, Check.first_flags hfirst]
  have taken : takeoff.flags.takeoff = items.any Check.isTakeoff := by
    rw [(Check.takeoff_onList hcount htakeoff took).1, before]
    rfl
  have unlanded : takeoff.flags.landing = false := by
    rw [Check.takeoff_flags htakeoff, before]
  have kept : landing.flags.takeoff = takeoff.flags.takeoff := Check.landing_flags hlanding
  have recorded : landing.flags.landing = Check.recordsLanding items ctx.vehicle.airframe :=
    Check.landing_onList hcount unlanded hlanding landed
  rw [← taken, ← kept, ← recorded, ← missing_eq_none]
  exact Check.presence_passed hpresence present hpolicy

/-- A land start before all items of a VTOL mission that does not land, where the policy asks for a landing. -/
def Presence.IsEvaded (policy : Presence) (airframe : Airframe) (items : List Item) : Prop :=
  airframe = .vtol ∧ policy ∈ [landing, both, symmetric] ∧ Check.startsWithLandStart items = true ∧
    items.any Check.isVtolLanding = false

instance (policy : Presence) (airframe : Airframe) (items : List Item) : Decidable (policy.IsEvaded airframe items) :=
  inferInstanceAs (Decidable (_ ∧ _ ∧ _ ∧ _))

/-- An accepted mission does what the policy asks, unless it evades the policy. -/
theorem asks_iff_of_accepts (c : Checker σ) (mission : Mission) (limits : Limits) (store : σ) (items : List Item)
    (policy : Presence) (hheld : c.Holds mission items store) (haccepts : (c.check mission limits store).Accepts)
    (hpolicy : Presence.ofNumber? c.vehicle.presence = some policy) :
    policy.Asks (items.any Check.isTakeoff) (items.any c.vehicle.airframe.lands) ↔
      ¬ policy.IsEvaded c.vehicle.airframe items := by
  obtain ⟨hcount, clears⟩ := Checker.clears_onList hheld haccepts
  have asks : policy.Asks (items.any Check.isTakeoff) (Check.recordsLanding items c.vehicle.airframe) :=
    asks_of_clears hcount clears hpolicy
  cases hairframe : c.vehicle.airframe with
  | rotaryWing =>
    rw [hairframe] at asks
    exact iff_of_true asks fun evaded => nomatch evaded.1
  | fixedWing =>
    rw [hairframe] at asks
    exact iff_of_true asks fun evaded => nomatch evaded.1
  | vtol =>
    rw [hairframe] at asks
    simp only [Check.recordsLanding, Airframe.lands, Presence.IsEvaded] at asks ⊢
    cases hlands : items.any Check.isVtolLanding with
    | true =>
      rw [hlands] at asks
      exact iff_of_true asks (by simp)
    | false =>
      rw [hlands, Bool.false_or] at asks
      -- Only here can the record differ from the items: it is then that of the land start alone.
      cases hstart : Check.startsWithLandStart items with
      | true =>
        rw [hstart] at asks
        cases policy <;> simp_all [Presence.Asks]
      | false =>
        rw [hstart] at asks
        exact iff_of_true asks (by simp)

theorem asks_of_accepts_vtol :
    let items : List Item := [{ code := Command.vtolTakeoff.code, altitude := 20.0 },
      { code := Command.doLandStart.code }, { code := Command.waypoint.code, altitude := 20.0 },
      { code := Command.vtolLand.code }]
    let c : Checker MemoryStore :=
      { read := MemoryStore.read
        vehicle := { airframe := .vtol, home := .ofNumbers 0.0 0.0 488.0, presence := Presence.both.number } }
    let store := MemoryStore.insert {} "m" items
    c.Holds (MemoryStore.handle "m" items) items store ∧
      (c.check (MemoryStore.handle "m" items) {} store).Accepts ∧
      Presence.both.Asks (items.any Check.isTakeoff) (items.any c.vehicle.airframe.lands) := by
  intro items c store
  have held : c.Holds (MemoryStore.handle "m" items) items store :=
    Checker.holds_memory rfl (MemoryStore.find?_insert_self {} "m" items)
  have accepts : (c.check (MemoryStore.handle "m" items) {} store).Accepts := by decide +kernel
  refine ⟨held, accepts, ?_⟩
  exact (asks_iff_of_accepts c (MemoryStore.handle "m" items) {} store items .both held accepts rfl).mpr (by decide)

theorem accepts_without_landing :
    let items : List Item := [{ code := Command.doLandStart.code }, { code := Command.waypoint.code, altitude := 30.0 }]
    let c : Checker MemoryStore :=
      { read := MemoryStore.read
        vehicle := { airframe := .vtol, home := .ofNumbers 0.0 0.0 488.0, presence := Presence.landing.number } }
    (c.check (MemoryStore.handle "m" items) {} (MemoryStore.insert {} "m" items)).Accepts ∧
      ¬ Presence.landing.Asks (items.any Check.isTakeoff) (items.any c.vehicle.airframe.lands) :=
  ⟨by decide +kernel, by decide⟩

end Preflight
