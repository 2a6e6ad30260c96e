import Preflight.Proofs.Check.LandingOrder

namespace Preflight.Check

variable {σ : Type} {ctx : Context σ} {id : String} {items : List Item}

structure VtolSequence (items : List Item) : Prop where
  airborne : ∀ first, items[0]? = some first → isVtolLanding first = false
  order : InLandingOrder isVtolLanding items
  served : ∀ (index : Nat) start, 0 < index → items[index]? = some start → isLandStart start = true →
    ∃ (later : Nat) (land : Item), index < later ∧ items[later]? = some land ∧ isVtolLanding land = true

abbrev vtolRules : LandingRules Unit := { lands := isVtolLanding, step := vtolStep, needsValidated := false }

theorem run_vtolStep (ctx : Context σ) (id : String) {index : Nat} {item : Item} (hfound : items[index]? = some item) :
    (vtolStep (ctx.onList id items) index item).run () =
      (.ok (if index = 0 then some (.startsWithLanding true) else none), ()) := by
  rw [vtolStep_eq]
  split
  · rfl
  · obtain ⟨bound, -⟩ := List.getElem?_eq_some_iff.mp hfound
    have before : items[index - 1]? = some items[index - 1] := List.getElem?_eq_getElem (by omega)
    have read : ((ctx.onList id items).read (index - 1)).run () = (.ok items[index - 1], ()) :=
      Prod.ext (itemAt_eq_ok.mpr before) rfl
    rw [Reads.run_bind, read]
    rfl

theorem vtolSequence_iff (ctx : Context σ) (id : String) (items : List Item) :
    VtolSequence items ↔ InLandingOrder isVtolLanding items ∧
      LandingsPass vtolRules (ctx.onList id items) items ∧ StartsServed isVtolLanding false items := by
  have steps : LandingsPass vtolRules (ctx.onList id items) items ↔
      ∀ first, items[0]? = some first → isVtolLanding first = false := by
    constructor
    · intro pass first hfound
      cases hlands : isVtolLanding first with
      | false => rfl
      | true => exact nomatch (run_vtolStep ctx id hfound).symm.trans (pass 0 first hfound hlands)
    · intro airborne index land hfound hlands
      have behind : index ≠ 0 := by
        rintro rfl
        exact nomatch (airborne land hfound).symm.trans hlands
      exact (run_vtolStep ctx id hfound).trans (by rw [if_neg behind])
  constructor
  · rintro ⟨airborne, order, served⟩
    refine ⟨order, steps.mpr airborne, fun index start hfound hstart counts => ?_⟩
    exact served index start (by simpa using counts) hfound hstart
  · rintro ⟨order, pass, served⟩
    exact ⟨steps.mp pass, order, fun index start hi hfound hstart => served index start hfound hstart (.inr hi)⟩

theorem visitLanding_settles {rules : LandingRules Unit} {ctx : Context Unit} {index : Nat} {item : Item}
    (seen : LandingScan) {answer : Option Finding} (step : (rules.step ctx index item).run () = (.ok answer, ())) :
    (∃ next, ((visitLanding rules ctx index item seen).run ()).1 = .ok (.going next)) ∨
      ∃ finding, ((visitLanding rules ctx index item seen).run ()).1 = .ok (.stopped (true, finding)) := by
  rw [visitLanding_eq]
  split
  next again =>
    have landing : seen.landing = true := (Bool.and_eq_true_iff.mp again).2
    exact .inr ⟨_, by rw [landing]; rfl⟩
  next =>
    split
    · rw [Reads.run_bind, Reads.run_attempt, step]
      cases answer with
      | none => exact .inl ⟨_, rfl⟩
      | some finding => exact .inr ⟨finding, rfl⟩
    · split
      next returns =>
        have landing : (seen.start index item).landing = true := by
          rw [Bool.and_eq_true, Bool.and_eq_true] at returns
          exact returns.1.2
        exact .inr ⟨_, by rw [landing]; rfl⟩
      next => exact .inl ⟨_, rfl⟩

theorem vtolLanding_ends (ctx : Context σ) (id : String) {flags : Flags} (hcount : ctx.count = items.length)
    (hlanding : flags.landing = false) :
    ∃ outcome, ((vtolLanding (ctx.onList id items) flags).run ()).1 = .ok outcome ∧
      (outcome.passed = false → outcome.flags.landing = true) := by
  have settles : (∃ seen : LandingScan, walkLanding vtolRules (ctx.onList id items) items = .ok (.going seen) ∧ True) ∨
      ∃ result, walkLanding vtolRules (ctx.onList id items) items = .ok (.stopped result) ∧ result.1 = true := by
    refine walk_settles (I := fun _ _ => True) ?_ trivial
    rintro before item after seen hitems -
    have found : items[before.length]? = some item := by simp [hitems]
    have step : (vtolRules.step (ctx.onList id items) before.length item).run () = _ := run_vtolStep ctx id found
    rcases visitLanding_settles seen step with ⟨next, hvisit⟩ | ⟨finding, hvisit⟩
    · exact .inl ⟨next, hvisit, trivial⟩
    · exact .inr ⟨_, hvisit, rfl⟩
  have ran : ((vtolLanding (ctx.onList id items) flags).run ()).1 = _ := run_landingSequence vtolRules hcount hlanding
  rw [ran]
  rcases settles with ⟨seen, hwalk, -⟩ | ⟨⟨landing, finding⟩, hwalk, rfl⟩
  · rw [hwalk]
    refine ⟨_, rfl, fun failed => ?_⟩
    dsimp only [closeLanding] at failed ⊢
    split at failed
    next invalid =>
      have landing : seen.landing = true := (Bool.and_eq_true_iff.mp invalid).1
      rw [if_pos invalid]
      exact landing
    next => exact nomatch failed
  · rw [hwalk]
    exact ⟨_, rfl, fun _ => rfl⟩

theorem vtolLanding_onList {flags : Flags} (hcount : ctx.count = items.length) (hlanding : flags.landing = false) :
    Passes ((vtolLanding (ctx.onList id items) flags).run ()).1 ↔ VtolSequence items :=
  (landingSequence_passes_iff vtolRules apart_isVtolLanding hcount hlanding).trans (vtolSequence_iff ctx id items).symm

theorem vtolLanding_passes_iff (ctx : Context σ) (items : List Item) (flags : Flags) (store : σ)
    (hheld : ctx.Holds items store) (hlanding : flags.landing = false) :
    ∃ outcome, ((vtolLanding ctx flags).run store).1 = .ok outcome ∧
      (outcome.passed = true ↔ VtolSequence items) ∧
      (outcome.passed = true →
        (outcome.flags.landing = true ↔ ∃ item ∈ items, isLandStart item = true ∨ isVtolLanding item = true)) ∧
      (outcome.passed = false → outcome.flags.landing = true) := by
  obtain ⟨R, hstore, reads⟩ := hheld.agree ""
  have ran : ((vtolLanding ctx flags).run store).1 = ((vtolLanding (ctx.onList "" items) flags).run ()).1 :=
    (landing_agree reads .vtol store () hstore).1
  obtain ⟨outcome, answer, failed⟩ := vtolLanding_ends ctx "" hheld.1 hlanding
  have passes : Passes ((vtolLanding (ctx.onList "" items) flags).run ()).1 ↔ VtolSequence items :=
    vtolLanding_onList hheld.1 hlanding
  rw [ran]
  refine ⟨outcome, answer, ?_, fun passed => ?_, failed⟩
  · rw [← passes, answer]
    simp [Passes]
  · rw [landing_of_passed vtolRules apart_isVtolLanding hheld.1 hlanding answer passed]
    simp [Outcome.pass, opensLanding, or_comm]

theorem vtolLanding_passes_started :
    let items : List Item := [{ code := Command.doLandStart.code }, { code := Command.waypoint.code },
      { code := Command.vtolLand.code }]
    let unread : Context Unit :=
      { read := fun _ => .ofExcept (.error (.storage "gone")), count := 3, vehicle := { airframe := .vtol }
        fence := .unlimited, distance := Geodesy.distance, hasPosition := Item.hasPosition }
    (unread.onList "m" items).Holds items () ∧ VtolSequence items := by
  intro items unread
  have held : (unread.onList "m" items).Holds items () := Context.holds_onList rfl "m"
  obtain ⟨outcome, answer, passes, -⟩ := vtolLanding_passes_iff (unread.onList "m" items) items {} () held rfl
  have passed : Passes ((vtolLanding (unread.onList "m" items) {}).run ()).1 := by decide +kernel
  refine ⟨held, passes.mp ?_⟩
  rw [answer] at passed
  simpa [Passes] using passed

end Preflight.Check
