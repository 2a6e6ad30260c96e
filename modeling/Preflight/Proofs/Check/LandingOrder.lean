import Preflight.Proofs.Check.LandingList

/-!
The order of a landing sequence. A landing scan comes past all items of a list if and only if they are in order and
every landing is found valid; what it has seen by then decides about a land start that no landing follows.
-/
namespace Preflight.Check

variable {ctx : Context Unit} {rules : LandingRules Unit} {flags : Flags} {id : String} {lands : Item → Bool}
  {items before : List Item} {item : Item} {seen : LandingScan}

def isLandStart (item : Item) : Bool := item.carries .doLandStart

def isReturn (item : Item) : Bool := item.carries .returnToLaunch

def opensLanding (lands : Item → Bool) (item : Item) : Bool := lands item || isLandStart item

structure InLandingOrder (lands : Item → Bool) (items : List Item) : Prop where
  once : items.Pairwise fun earlier later => ¬ (isLandStart earlier = true ∧ isLandStart later = true)
  started : items.Pairwise fun earlier later => ¬ (lands earlier = true ∧ isLandStart later = true)
  ended : items.Pairwise fun earlier later =>
    ¬ ((isLandStart earlier = true ∨ lands earlier = true) ∧ isReturn later = true)

theorem pairwise_concat {R : Item → Item → Prop} : (before ++ [item]).Pairwise R ↔
    before.Pairwise R ∧ ∀ earlier ∈ before, R earlier item := by
  simp [List.pairwise_append]

theorem inLandingOrder_append : InLandingOrder lands (before ++ [item]) ↔ InLandingOrder lands before ∧
    (before.any (opensLanding lands) = true → isLandStart item = false ∧ isReturn item = false) := by
  have opens (earlier : Item) :
      opensLanding lands earlier = true ↔ lands earlier = true ∨ isLandStart earlier = true := by
    simp [opensLanding]
  constructor
  · rintro ⟨once, started, ended⟩
    rw [pairwise_concat] at once started ended
    refine ⟨⟨once.1, started.1, ended.1⟩, fun opened => ?_⟩
    obtain ⟨earlier, hearlier, hopens⟩ := List.any_eq_true.mp opened
    have first := once.2 earlier hearlier
    have landed := started.2 earlier hearlier
    have returned := ended.2 earlier hearlier
    rcases (opens earlier).mp hopens with hopens | hopens <;> simp_all
  · rintro ⟨⟨once, started, ended⟩, apart⟩
    have after : ∀ earlier ∈ before, lands earlier = true ∨ isLandStart earlier = true →
        isLandStart item = false ∧ isReturn item = false := by
      intro earlier hearlier hopens
      exact apart (List.any_eq_true.mpr ⟨earlier, hearlier, (opens earlier).mpr hopens⟩)
    refine ⟨pairwise_concat.mpr ⟨once, ?_⟩, pairwise_concat.mpr ⟨started, ?_⟩, pairwise_concat.mpr ⟨ended, ?_⟩⟩
    · rintro earlier hearlier ⟨first, second⟩
      simp [(after earlier hearlier (.inr first)).1] at second
    · rintro earlier hearlier ⟨landed, start⟩
      simp [(after earlier hearlier (.inl landed)).1] at start
    · rintro earlier hearlier ⟨opened, back⟩
      simp [(after earlier hearlier opened.symm).2] at back

def Apart (lands : Item → Bool) : Prop :=
  ∀ item, lands item = true → isLandStart item = false ∧ isReturn item = false

theorem apart_of_carries {c : Command} (hstart : c ≠ .doLandStart) (hreturn : c ≠ .returnToLaunch) :
    Apart fun item => item.carries c := by
  intro item hlands
  constructor
  · exact eq_false_of_ne_true fun start => hstart (Item.carries_unique hlands start)
  · exact eq_false_of_ne_true fun back => hreturn (Item.carries_unique hlands back)

theorem apart_isLand : Apart isLand := apart_of_carries (by decide) (by decide)

theorem apart_isVtolLanding : Apart isVtolLanding := by
  intro item hlands
  rcases Bool.or_eq_true_iff.mp hlands with hlands | hlands
  · exact apart_isLand item hlands
  · exact apart_of_carries (c := .vtolLand) (by decide) (by decide) item hlands

structure LandingScan.Follows (lands : Item → Bool) (before : List Item) (seen : LandingScan) : Prop
    extends seen.Describes lands before where
  start : seen.landStart ≤ before.length - 1
  landed : before.any lands = true → seen.landStart ≤ seen.approach

def LandingScan.past (seen : LandingScan) (lands : Item → Bool) (index : Nat) (item : Item) : LandingScan :=
  if lands item then { (seen.start index item).land index with validated := true } else seen.start index item

theorem length_pos_of_any {p : Item → Bool} (h : before.any p = true) : 0 < before.length := by
  obtain ⟨item, hitem, -⟩ := List.any_eq_true.mp h
  exact List.length_pos_of_mem hitem

theorem start_eq_self (h : isLandStart item = false) (index : Nat) : seen.start index item = seen := by
  rw [LandingScan.start, if_neg (by simpa [isLandStart] using h)]

theorem follows_past (apart : Apart lands) (h : seen.Follows lands before)
    (order : InLandingOrder lands (before ++ [item])) :
    (seen.past lands before.length item).Follows lands (before ++ [item]) := by
  have opened := (inLandingOrder_append.mp order).2
  have bound := h.start
  cases hlands : lands item with
  | true =>
    have past : seen.past lands before.length item = { seen.land before.length with validated := true } := by
      rw [LandingScan.past, if_pos hlands, start_eq_self (apart item hlands).1]
    rw [past]
    refine { describes_land before seen hlands with start := ?_, landed := fun _ => ?_ }
    · simp [LandingScan.land]
      omega
    · simp only [LandingScan.land]
      split <;> omega
  | false =>
    have past : seen.past lands before.length item = seen.start before.length item := by
      rw [LandingScan.past, if_neg (by simp [hlands])]
    rw [past]
    refine { describes_start h.toDescribes hlands with start := ?_, landed := fun landed => ?_ }
    · unfold LandingScan.start
      split <;> simp
      omega
    · have landed : before.any lands = true := by simpa [hlands] using landed
      -- A landing before leaves no room for a land start now.
      have opens : before.any (opensLanding lands) = true := by
        obtain ⟨land, hland, hlands⟩ := List.any_eq_true.mp landed
        exact List.any_eq_true.mpr ⟨land, hland, by simp [opensLanding, hlands]⟩
      rw [start_eq_self (opened opens).1]
      exact h.landed landed

theorem landStart_lt (h : seen.Follows lands before) (opened : before.any (opensLanding lands) = true) :
    seen.landStart < before.length := by
  have bound := h.start
  have nonempty := length_pos_of_any opened
  omega

theorem order_of_going {next : LandingScan} (apart : Apart rules.lands) (h : seen.Follows rules.lands before)
    (hvisit : ((visitLanding rules ctx before.length item seen).run ()).1 = .ok (.going next))
    (opened : before.any (opensLanding rules.lands) = true) : isLandStart item = false ∧ isReturn item = false := by
  have landing : seen.landing = true := h.landing.trans opened
  rw [visitLanding_eq] at hvisit
  split at hvisit
  · exact nomatch hvisit
  next hstart =>
    have hstart : isLandStart item = false := by simpa [isLandStart, landing] using hstart
    refine ⟨hstart, ?_⟩
    rw [start_eq_self hstart] at hvisit
    split at hvisit
    next hlands => exact (apart item hlands).2
    next hlands =>
      split at hvisit
      · exact nomatch hvisit
      next hreturn => simpa [isReturn, landing, landStart_lt h opened] using hreturn

theorem visitLanding_past (h : seen.Follows rules.lands before)
    (order : before.any (opensLanding rules.lands) = true → isLandStart item = false ∧ isReturn item = false)
    (step : rules.lands item = true → (rules.step ctx before.length item).run () = (.ok none, ())) :
    ((visitLanding rules ctx before.length item seen).run ()).1 =
      .ok (.going (seen.past rules.lands before.length item)) := by
  have landing : seen.landing = before.any (opensLanding rules.lands) := h.landing
  have again : ¬ (item.carries .doLandStart && seen.landing) = true := by
    rw [Bool.and_eq_true]
    rintro ⟨start, opened⟩
    exact nomatch (order (landing.symm.trans opened)).1.symm.trans start
  rw [visitLanding_eq, if_neg again, LandingScan.past]
  cases hlands : rules.lands item with
  | true => simp only [if_true, Reads.run_bind, Reads.run_attempt, step hlands, Reads.run_pure, closeStep]
  | false =>
    have returns : ¬ (item.carries .returnToLaunch && (seen.start before.length item).landing &&
        (seen.start before.length item).landStart < before.length) = true := by
      rw [Bool.and_eq_true, Bool.and_eq_true]
      rintro ⟨⟨back, opened⟩, -⟩
      -- A return is no land start, so the landing was opened by an item before it.
      have hstart : isLandStart item = false :=
        eq_false_of_ne_true fun start => nomatch Item.carries_unique start back
      rw [start_eq_self hstart] at opened
      exact nomatch (order (landing.symm.trans opened)).2.symm.trans back
    simp [returns]

abbrev walkLanding (rules : LandingRules Unit) (ctx : Context Unit) (items : List Item) :
    Except Fault (Progress LandingScan (Bool × Finding)) :=
  walk (fun index item seen => ((visitLanding rules ctx index item seen).run ()).1) 0 items { landing := false }

theorem follows_start (lands : Item → Bool) : LandingScan.Follows lands [] { landing := false } :=
  { landing := rfl, validated := rfl, unlanded := fun _ => ⟨rfl, nofun⟩, start := Nat.le_refl 0, landed := nofun }

theorem inLandingOrder_nil (lands : Item → Bool) : InLandingOrder lands [] := ⟨.nil, .nil, .nil⟩

theorem walkLanding_going (apart : Apart rules.lands) (h : walkLanding rules ctx items = .ok (.going seen)) :
    seen.Follows rules.lands items ∧ InLandingOrder rules.lands items := by
  refine walk_going (I := fun before seen => seen.Follows rules.lands before ∧ InLandingOrder rules.lands before)
    ?_ ⟨follows_start _, inLandingOrder_nil _⟩ h
  rintro before item after seen next - ⟨follows, order⟩ hvisit
  have extended := inLandingOrder_append.mpr ⟨order, order_of_going apart follows hvisit⟩
  have past := follows_past apart follows extended
  rcases visitLanding_going hvisit with ⟨hlands, -, rfl⟩ | ⟨hlands, rfl⟩
  · rw [LandingScan.past, if_pos hlands] at past
    exact ⟨past, extended⟩
  · rw [LandingScan.past, if_neg (by simp [hlands])] at past
    exact ⟨past, extended⟩

theorem InLandingOrder.of_append {after : List Item} (h : InLandingOrder lands (before ++ after)) :
    InLandingOrder lands before :=
  ⟨(List.pairwise_append.mp h.once).1, (List.pairwise_append.mp h.started).1, (List.pairwise_append.mp h.ended).1⟩

theorem walkLanding_goes (apart : Apart rules.lands) (order : InLandingOrder rules.lands items)
    (pass : LandingsPass rules ctx items) : ∃ seen, walkLanding rules ctx items = .ok (.going seen) := by
  have settles : (∃ seen : LandingScan, walkLanding rules ctx items = .ok (.going seen) ∧
        seen.Follows rules.lands items) ∨
      ∃ result, walkLanding rules ctx items = .ok (.stopped result) ∧ False := by
    refine walk_settles (I := fun before (seen : LandingScan) => seen.Follows rules.lands before) ?_ (follows_start _)
    rintro before item after seen rfl follows
    have extended : InLandingOrder rules.lands (before ++ [item]) := by
      rw [List.append_cons] at order
      exact order.of_append
    have goes := visitLanding_past follows (inLandingOrder_append.mp extended).2 (pass before.length item (by simp))
    exact .inl ⟨_, goes, follows_past apart follows extended⟩
  rcases settles with ⟨seen, hwalk, -⟩ | ⟨-, -, never⟩
  · exact ⟨seen, hwalk⟩
  · exact never.elim

/-- Every land start that counts is followed by a landing; the first item counts only where landings are validated. -/
def StartsServed (lands : Item → Bool) (needsValidated : Bool) (items : List Item) : Prop :=
  ∀ (index : Nat) start, items[index]? = some start → isLandStart start = true → needsValidated = true ∨ 0 < index →
    ∃ (later : Nat) (land : Item), index < later ∧ items[later]? = some land ∧ lands land = true

theorem later_of_landed (apart : Apart lands) (order : InLandingOrder lands items) (landed : items.any lands = true)
    {index : Nat} {start : Item} (hfound : items[index]? = some start) (hstart : isLandStart start = true) :
    ∃ (later : Nat) (land : Item), index < later ∧ items[later]? = some land ∧ lands land = true := by
  obtain ⟨land, hland, hlands⟩ := List.any_eq_true.mp landed
  obtain ⟨later, hlater⟩ := List.mem_iff_getElem?.mp hland
  refine ⟨later, land, ?_, hlater, hlands⟩
  obtain ⟨bound, rfl⟩ := List.getElem?_eq_some_iff.mp hfound
  obtain ⟨bound', rfl⟩ := List.getElem?_eq_some_iff.mp hlater
  rcases Nat.lt_trichotomy index later with before | rfl | behind
  · exact before
  · exact absurd hstart (by simp [(apart _ hlands).1])
  · exact absurd ⟨hlands, hstart⟩ (List.pairwise_iff_getElem.mp order.started later index bound' bound behind)

theorem landStart_unique (order : InLandingOrder lands items) {j k : Nat} {first second : Item}
    (hfirst : items[j]? = some first) (hsecond : items[k]? = some second) (hstart : isLandStart first = true)
    (hstart' : isLandStart second = true) : j = k := by
  obtain ⟨bound, rfl⟩ := List.getElem?_eq_some_iff.mp hfirst
  obtain ⟨bound', rfl⟩ := List.getElem?_eq_some_iff.mp hsecond
  have once := List.pairwise_iff_getElem.mp order.once
  rcases Nat.lt_trichotomy j k with before | rfl | behind
  · exact absurd ⟨hstart, hstart'⟩ (once j k bound bound' before)
  · rfl
  · exact absurd ⟨hstart', hstart⟩ (once k j bound' bound behind)

theorem isInvalid_iff (apart : Apart lands) (h : seen.Follows lands items) (order : InLandingOrder lands items)
    (needsValidated : Bool) : seen.isInvalid needsValidated = false ↔ StartsServed lands needsValidated items := by
  cases landed : items.any lands with
  | true =>
    have validated : seen.validated = true := h.validated.trans landed
    have ahead := h.landed landed
    refine iff_of_true ?_ fun index start hfound hstart _ => later_of_landed apart order landed hfound hstart
    simp [LandingScan.isInvalid, validated, ahead]
  | false =>
    have validated : seen.validated = false := h.validated.trans landed
    obtain ⟨approach, started⟩ := h.unlanded landed
    have unserved : ∀ (later : Nat) (land : Item), items[later]? = some land → lands land = false := by
      intro later land hlater
      simpa using List.any_eq_false.mp landed land (List.mem_of_getElem? hlater)
    cases hlanding : seen.landing with
    | false =>
      refine iff_of_true (by simp [LandingScan.isInvalid, hlanding]) fun index start hfound hstart _ => ?_
      have nothing := List.any_eq_false.mp (h.landing.symm.trans hlanding) start (List.mem_of_getElem? hfound)
      simp [show start.carries .doLandStart = true from hstart] at nothing
    | true =>
      -- Without a landing the only land start decides, and at index 0 it lies where the approach is taken to be.
      obtain ⟨start, hfound, hstart⟩ := started hlanding
      have invalid : seen.isInvalid needsValidated = false ↔ ¬ (needsValidated = true ∨ 0 < seen.landStart) := by
        simp [LandingScan.isInvalid, hlanding, validated, approach]
      rw [invalid]
      constructor
      · intro uncounted index other hother hstart' counts
        obtain rfl := landStart_unique order hother hfound hstart' hstart
        exact absurd counts uncounted
      · intro served counts
        obtain ⟨later, land, -, hlater, hlands⟩ := served seen.landStart start hfound hstart counts
        rw [unserved later land hlater] at hlands
        cases hlands

section

variable {σ : Type} {ctx : Context σ}

theorem run_landingSequence (rules : LandingRules Unit) (hcount : ctx.count = items.length)
    (hlanding : flags.landing = false) :
    ((landingSequence rules (ctx.onList id items) flags).run ()).1 =
      closeLanding rules.needsValidated flags <$> walkLanding rules (ctx.onList id items) items := by
  rw [landingSequence_eq, hlanding, run_settle_onList hcount]

def Passes (answer : Except Fault Outcome) : Prop := ∃ outcome, answer = .ok outcome ∧ outcome.passed = true

instance : (answer : Except Fault Outcome) → Decidable (Passes answer)
  | .error _ => .isFalse nofun
  | .ok outcome => decidable_of_iff (outcome.passed = true) (by simp [Passes])

theorem landingSequence_passes_iff (rules : LandingRules Unit) (apart : Apart rules.lands)
    (hcount : ctx.count = items.length) (hlanding : flags.landing = false) :
    Passes ((landingSequence rules (ctx.onList id items) flags).run ()).1 ↔
      InLandingOrder rules.lands items ∧ LandingsPass rules (ctx.onList id items) items ∧
        StartsServed rules.lands rules.needsValidated items := by
  rw [run_landingSequence rules hcount hlanding]
  constructor
  · rintro ⟨outcome, ran, passed⟩
    obtain ⟨progress, hwalk, rfl⟩ := Fault.map_ok ran
    obtain ⟨seen, rfl, valid⟩ := closeLanding_passed.mp passed
    obtain ⟨follows, order⟩ := walkLanding_going apart hwalk
    exact ⟨order, landingsPass_of_walk hwalk, (isInvalid_iff apart follows order _).mp valid⟩
  · rintro ⟨order, pass, served⟩
    obtain ⟨seen, hwalk⟩ := walkLanding_goes apart order pass
    have valid := (isInvalid_iff apart (walkLanding_going apart hwalk).1 order _).mpr served
    exact ⟨_, by rw [hwalk]; rfl, closeLanding_passed.mpr ⟨seen, rfl, valid⟩⟩

theorem landing_of_passed (rules : LandingRules Unit) (apart : Apart rules.lands)
    (hcount : ctx.count = items.length) (hlanding : flags.landing = false) {outcome : Outcome}
    (ran : ((landingSequence rules (ctx.onList id items) flags).run ()).1 = .ok outcome)
    (passed : outcome.passed = true) :
    outcome = .pass { flags with landing := items.any (opensLanding rules.lands) } := by
  rw [run_landingSequence rules hcount hlanding] at ran
  obtain ⟨progress, hwalk, rfl⟩ := Fault.map_ok ran
  obtain ⟨seen, rfl, valid⟩ := closeLanding_passed.mp passed
  have landing : seen.landing = items.any (opensLanding rules.lands) := (walkLanding_going apart hwalk).1.landing
  rw [← landing]
  dsimp only [closeLanding]
  rw [if_neg (by simp [valid])]

end

end Preflight.Check
