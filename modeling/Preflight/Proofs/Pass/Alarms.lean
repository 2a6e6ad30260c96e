import Preflight.Proofs.Pass.Origins
import Preflight.Proofs.Pass.Policy

/-!
False alarms of the presence check. What it says of the landings is true of every mission that can be read; what it says
of the takeoffs is false if and only if the first takeoff is too low, since the takeoff check then records none.
-/
namespace Preflight

variable {σ : Type} {ctx : Context σ} {limits : Limits} {flags : Flags} {id : String} {items : List Item}
  {takesOff lands : Bool}

namespace Diagnostic

def takeoffCodes : List String := ["mission_takeoff_missing", "mission_add_takeoff_or_remove_land"]

def landingCodes : List String := ["mission_land_missing", "mission_add_land_or_remove_takeoff"]

def eitherCode : String := "mission_takeoff_or_land_missing"

structure IsTrue (takesOff lands : Bool) (d : Diagnostic) : Prop where
  takeoff : d.code ∈ takeoffCodes → takesOff = false
  landing : d.code ∈ landingCodes → lands = false
  either : d.code = eitherCode → takesOff = false ∨ lands = false

def BlamesTakeoff (lands : Bool) (d : Diagnostic) : Prop := d.code ∈ takeoffCodes ∨ d.code = eitherCode ∧ lands = true

end Diagnostic

theorem isTrue_of_other {f : Finding} (h : Stage.presence.finds f = false) :
    f.diagnostic.IsTrue takesOff lands ∧ ¬ f.diagnostic.BlamesTakeoff lands := by
  have other : f.code ∉ Diagnostic.takeoffCodes ∧ f.code ∉ Diagnostic.landingCodes ∧ f.code ≠ Diagnostic.eitherCode := by
    cases f <;>
      simp_all [Stage.finds, Finding.code, Diagnostic.takeoffCodes, Diagnostic.landingCodes, Diagnostic.eitherCode]
  obtain ⟨takeoff, landing, either⟩ := other
  refine ⟨⟨fun code => absurd code takeoff, fun code => absurd code landing, fun code => absurd code either⟩, ?_⟩
  rintro (code | ⟨code, -⟩)
  · exact takeoff code
  · exact either code

theorem isTrue_missing {policy : Presence} {f : Finding} {low : Bool} (h : Check.missing policy flags = some f)
    (htakeoff : flags.takeoff = (takesOff && !low)) (hlow : low = true → takesOff = true)
    (hlanding : flags.landing = false → lands = false) :
    f.diagnostic.IsTrue takesOff lands ↔ ¬ (low = true ∧ f.diagnostic.BlamesTakeoff lands) := by
  have reads : f.diagnostic.IsTrue takesOff lands ↔ (f.code ∈ Diagnostic.takeoffCodes → takesOff = false) ∧
      (f.code ∈ Diagnostic.landingCodes → lands = false) ∧
      (f.code = Diagnostic.eitherCode → takesOff = false ∨ lands = false) :=
    ⟨fun h => ⟨h.takeoff, h.landing, h.either⟩, fun ⟨takeoff, landing, either⟩ => ⟨takeoff, landing, either⟩⟩
  have blames : f.diagnostic.BlamesTakeoff lands ↔
      f.code ∈ Diagnostic.takeoffCodes ∨ f.code = Diagnostic.eitherCode ∧ lands = true := Iff.rfl
  rw [reads, blames]
  unfold Check.missing at h
  cases policy <;> grind [Finding.code, Diagnostic.takeoffCodes, Diagnostic.landingCodes, Diagnostic.eitherCode]

theorem landing_unrecorded (hcount : ctx.count = items.length) (hlanding : flags.landing = false) {airframe : Airframe}
    {outcome : Outcome} (h : (Check.landing airframe (ctx.onList id items) flags).run () = (.ok outcome, ()))
    (hrecord : outcome.flags.landing = false) : items.any airframe.lands = false := by
  cases airframe with
  | rotaryWing => exact (Check.anyLanding_onList hcount h).symm.trans hrecord
  | fixedWing => exact Check.landingSequence_unrecorded _ hcount hlanding h hrecord
  | vtol => exact Check.landingSequence_unrecorded _ hcount hlanding h hrecord

theorem unreported_elsewhere {f : Finding} (hpresence : Stage.presence.finds f = true) {stage : Stage}
    (hstage : stage ≠ .presence) {outcome : Outcome} {store after : σ}
    (ran : (ctx.check limits stage flags).run store = (.ok outcome, after)) : f ∉ outcome.findings := by
  intro hf
  have found := Context.check_finds ran f hf
  cases stage <;> cases f <;> simp_all [Stage.finds]

theorem missing_of_ends (hcount : ctx.count = items.length) {outcomes : List Outcome}
    (h : Pass.Ends (ctx.onList id items) limits Stage.all {} () outcomes) {f : Finding}
    (hf : f ∈ outcomes.flatMap (·.findings)) (hpresence : Stage.presence.finds f = true) :
    ∃ policy flags, Check.missing policy flags = some f ∧
      flags.takeoff = (items.any Check.isTakeoff && !Check.startsLow ctx.vehicle items) ∧
      (flags.landing = false → items.any ctx.vehicle.airframe.lands = false) := by
  obtain ⟨first, _, _, hfirst, ⟨validity, _, _, hvalidity, ⟨between, _, _, hbetween, ⟨fence, _, _, hfence,
    ⟨home, _, _, hhome, ⟨takeoff, _, _, htakeoff, ⟨landing, _, _, hlanding, ⟨presence, _, _, hpresented, rfl, rfl⟩, rfl⟩,
    rfl⟩, rfl⟩, rfl⟩, rfl⟩, rfl⟩, rfl⟩ := h
  have before : home.flags = {} := by
    rw [Check.homeAltitude_flags hhome, Check.fence_flags hfence, Check.betweenDistance_flags hbetween,
      Check.validity_flags hvalidity, Check.first_flags hfirst]
  have reported : f ∈ presence.findings := by
    simp only [List.flatMap_cons, List.flatMap_nil, List.append_nil, List.mem_append] at hf
    rcases hf with hf | hf | hf | hf | hf | hf | hf | hf
    · exact absurd hf (unreported_elsewhere hpresence (by simp) hfirst)
    · exact absurd hf (unreported_elsewhere hpresence (by simp) hvalidity)
    · exact absurd hf (unreported_elsewhere hpresence (by simp) hbetween)
    · exact absurd hf (unreported_elsewhere hpresence (by simp) hfence)
    · exact absurd hf (unreported_elsewhere hpresence (by simp) hhome)
    · exact absurd hf (unreported_elsewhere hpresence (by simp) htakeoff)
    · exact absurd hf (unreported_elsewhere hpresence (by simp) hlanding)
    · exact hf
  have recorded : takeoff.flags.takeoff = (items.any Check.isTakeoff && !Check.startsLow ctx.vehicle items) := by
    obtain ⟨outcome, answer, judged⟩ := Check.takeoff_judged home.flags id hcount
    obtain rfl := Except.ok.inj (answer.symm.trans (congrArg Prod.fst htakeoff))
    rw [judged.takeoff, Check.takeoff_before_low, before]
    rfl
  have unlanded : takeoff.flags.landing = false := by
    rw [Check.takeoff_flags htakeoff, before]
  have hpresented := (Check.presence_run _ _ _).symm.trans hpresented
  obtain rfl := Except.ok.inj (Prod.mk.inj hpresented).1
  split at reported
  next finding hmissing =>
    obtain rfl := List.mem_singleton.mp reported
    obtain ⟨policy, -, hfinding⟩ := Option.bind_eq_some_iff.mp hmissing
    refine ⟨policy, landing.flags, hfinding, ?_, fun hrecord => landing_unrecorded hcount unlanded hlanding hrecord⟩
    rw [← recorded]
    exact Check.landing_flags hlanding
  next => exact absurd reported List.not_mem_nil

/-- A diagnostic of a readable mission is true unless it blames a takeoff that is missing only for being too low. -/
theorem diagnostics_true_iff (c : Checker σ) (mission : Mission) (limits : Limits) (store : σ) (items : List Item)
    (verdict : Verdict) (hheld : c.Holds mission items store)
    (hverdict : (c.check mission limits store).verdict = .ok verdict) :
    ∀ d ∈ verdict.diagnostics, d.IsTrue (items.any Check.isTakeoff) (items.any c.vehicle.airframe.lands) ↔
      ¬ (Check.startsLow c.vehicle items = true ∧ d.BlamesTakeoff (items.any c.vehicle.airframe.lands)) := by
  intro d hd
  by_cases hcount : 0 < mission.count
  · rw [Checker.verdict_onList hheld hcount] at hverdict
    obtain ⟨outcomes, ends, rfl⟩ := Pass.ends_of_verdict hverdict
    obtain ⟨f, hf, rfl⟩ := List.mem_map.mp hd
    cases hpresence : Stage.presence.finds f with
    | true =>
      obtain ⟨policy, flags, hmissing, htakeoff, hlanding⟩ := missing_of_ends hheld.context.1 ends hf hpresence
      exact isTrue_missing hmissing htakeoff Check.any_of_startsLow hlanding
    | false =>
      obtain ⟨isTrue, unblamed⟩ := isTrue_of_other hpresence
      exact iff_of_true isTrue fun h => unblamed h.2
  · rw [Checker.check, if_pos (by omega)] at hverdict
    obtain rfl := Except.ok.inj hverdict
    exact absurd hd List.not_mem_nil

theorem diagnostics_true_landing :
    let items : List Item := [{ code := Command.waypoint.code, altitude := 20.0 }, { code := Command.land.code }]
    let c : Checker MemoryStore :=
      { read := MemoryStore.read, vehicle := { home := .ofNumbers 0.0 0.0 488.0, presence := Presence.both.number } }
    let store := MemoryStore.insert {} "m" items
    c.Holds (MemoryStore.handle "m" items) items store ∧
      ∃ verdict, (c.check (MemoryStore.handle "m" items) {} store).verdict = .ok verdict ∧
        verdict.diagnostics.map (·.code) = [Diagnostic.eitherCode] ∧
        ∀ d ∈ verdict.diagnostics, d.IsTrue (items.any Check.isTakeoff) (items.any c.vehicle.airframe.lands) := by
  intro items c store
  have held : c.Holds (MemoryStore.handle "m" items) items store :=
    Checker.holds_memory rfl (MemoryStore.find?_insert_self {} "m" items)
  have codes : (c.check (MemoryStore.handle "m" items) {} store).verdict.toOption.map (·.diagnostics.map (·.code)) =
      some [Diagnostic.eitherCode] := by decide +kernel
  cases hverdict : (c.check (MemoryStore.handle "m" items) {} store).verdict with
  | error fault => simp [hverdict, Except.toOption] at codes
  | ok verdict =>
    refine ⟨held, verdict, rfl, by simpa [hverdict, Except.toOption] using codes, fun d hd => ?_⟩
    have isTrue := diagnostics_true_iff c (MemoryStore.handle "m" items) {} store items verdict held hverdict d hd
    exact isTrue.mpr fun blames => absurd blames.1 (by decide +kernel)

theorem alarm_of_low_takeoff :
    let items : List Item := [{ code := Command.takeoff.code, altitude := 5.0 }]
    let c : Checker MemoryStore :=
      { read := MemoryStore.read, vehicle := { home := .ofNumbers 0.0 0.0 488.0, presence := Presence.takeoff.number } }
    let store := MemoryStore.insert {} "m" items
    c.Holds (MemoryStore.handle "m" items) items store ∧
      ∃ verdict, (c.check (MemoryStore.handle "m" items) {} store).verdict = .ok verdict ∧
        ∃ d ∈ verdict.diagnostics, ¬ d.IsTrue (items.any Check.isTakeoff) (items.any c.vehicle.airframe.lands) := by
  intro items c store
  have held : c.Holds (MemoryStore.handle "m" items) items store :=
    Checker.holds_memory rfl (MemoryStore.find?_insert_self {} "m" items)
  have codes : (c.check (MemoryStore.handle "m" items) {} store).verdict.toOption.map (·.diagnostics.map (·.code)) =
      some ["mission_takeoff_too_low", "mission_takeoff_missing"] := by decide +kernel
  cases hverdict : (c.check (MemoryStore.handle "m" items) {} store).verdict with
  | error fault => simp [hverdict, Except.toOption] at codes
  | ok verdict =>
    simp only [hverdict, Except.toOption, Option.map_some, Option.some.injEq] at codes
    obtain ⟨d, hd, hcode⟩ := List.mem_map.mp (codes ▸ List.mem_cons_of_mem _ (List.mem_singleton_self _) :
      "mission_takeoff_missing" ∈ verdict.diagnostics.map (·.code))
    refine ⟨held, verdict, rfl, d, hd, fun isTrue => ?_⟩
    exact absurd (isTrue.takeoff (hcode ▸ by decide)) (by decide)

end Preflight
