import Preflight.Proofs.Check.Landing

namespace Preflight.Check

variable {σ : Type} {ctx : Context σ} {flags : Flags} {outcome : Outcome} {id : String} {items : List Item}

structure LandingScan.Describes (lands : Item → Bool) (before : List Item) (seen : LandingScan) : Prop where
  landing : seen.landing = before.any fun item => lands item || item.carries .doLandStart
  validated : seen.validated = before.any lands
  unlanded : before.any lands = false →
    seen.approach = 0 ∧ (seen.landing = true → ∃ item, before[seen.landStart]? = some item ∧
      item.carries .doLandStart = true)

theorem describes_land {lands : Item → Bool} (before : List Item) (seen : LandingScan) {item : Item}
    (hlands : lands item = true) :
    LandingScan.Describes lands (before ++ [item]) { seen.land before.length with validated := true } := by
  constructor
  case landing => simp [LandingScan.land, hlands]
  case validated => simp [hlands]
  case unlanded => simp [hlands]

theorem describes_start {lands : Item → Bool} {before : List Item} {seen : LandingScan} {item : Item}
    (h : seen.Describes lands before) (hlands : lands item = false) :
    (seen.start before.length item).Describes lands (before ++ [item]) := by
  unfold LandingScan.start
  split
  next hstart =>
    constructor
    case landing => simp [hstart]
    case validated => simp [h.validated, hlands]
    case unlanded =>
      intro unlanded
      have unlanded : before.any lands = false := by simpa [hlands] using unlanded
      exact ⟨(h.unlanded unlanded).1, fun _ => ⟨item, by simp, hstart⟩⟩
  next hstart =>
    constructor
    case landing => simp [h.landing, hlands, hstart]
    case validated => simp [h.validated, hlands]
    case unlanded =>
      intro unlanded
      have unlanded : before.any lands = false := by simpa [hlands] using unlanded
      obtain ⟨approach, started⟩ := h.unlanded unlanded
      refine ⟨approach, fun landing => ?_⟩
      obtain ⟨start, found, hcarries⟩ := started landing
      obtain ⟨bound, -⟩ := List.getElem?_eq_some_iff.mp found
      exact ⟨start, by rw [List.getElem?_append_left bound, found], hcarries⟩

theorem visitLanding_going {rules : LandingRules Unit} {ctx : Context Unit} {index : Nat} {item : Item}
    {seen next : LandingScan} (h : ((visitLanding rules ctx index item seen).run ()).1 = .ok (.going next)) :
    (rules.lands item = true ∧ (rules.step ctx index item).run () = (.ok none, ()) ∧
        next = { (seen.start index item).land index with validated := true }) ∨
      rules.lands item = false ∧ next = seen.start index item := by
  have visited : LandingVisit rules ctx index item seen () (.going next) () := visitLanding_ok (Prod.ext h rfl)
  generalize hprogress : Progress.going next = progress at visited
  cases visited with
  | again => exact nomatch hprogress
  | returns => exact nomatch hprogress
  | @lands hlands answer _ step =>
    rcases answer with reason | _ | finding
    · exact nomatch hprogress
    · exact .inl ⟨hlands, Reads.attempt_ok step, Progress.going.inj hprogress⟩
    · exact nomatch hprogress
  | passes hlands => exact .inr ⟨hlands, Progress.going.inj hprogress⟩

def LandingsPass (rules : LandingRules Unit) (ctx : Context Unit) (items : List Item) : Prop :=
  ∀ (index : Nat) land, items[index]? = some land → rules.lands land = true →
    (rules.step ctx index land).run () = (.ok none, ())

theorem landingsPass_append {rules : LandingRules Unit} {ctx : Context Unit} {before : List Item} {item : Item} :
    LandingsPass rules ctx (before ++ [item]) ↔ LandingsPass rules ctx before ∧
    (rules.lands item = true → (rules.step ctx before.length item).run () = (.ok none, ())) := by
  constructor
  · intro pass
    refine ⟨fun index land hfound => pass index land ?_, pass before.length item (by simp)⟩
    obtain ⟨bound, -⟩ := List.getElem?_eq_some_iff.mp hfound
    rw [List.getElem?_append_left bound, hfound]
  · rintro ⟨pass, last⟩ index land hfound hlands
    by_cases hi : index < before.length
    · rw [List.getElem?_append_left hi] at hfound
      exact pass index land hfound hlands
    · obtain ⟨bound, -⟩ := List.getElem?_eq_some_iff.mp hfound
      obtain rfl : index = before.length := by
        rw [List.length_append, List.length_singleton] at bound
        omega
      obtain rfl : item = land := by simpa using hfound
      exact last hlands

theorem landingsPass_of_walk {rules : LandingRules Unit} {ctx : Context Unit} {start seen : LandingScan}
    (h : walk (fun index item seen => ((visitLanding rules ctx index item seen).run ()).1) 0 items start =
      .ok (.going seen)) : LandingsPass rules ctx items := by
  refine walk_going (I := fun before _ => LandingsPass rules ctx before) ?_ (by simp [LandingsPass]) h
  intro before item after seen next _ pass hvisit
  refine landingsPass_append.mpr ⟨pass, fun hlands => ?_⟩
  rcases visitLanding_going hvisit with ⟨-, step, -⟩ | ⟨other, -⟩
  · exact step
  · exact nomatch other.symm.trans hlands

theorem walk_landing {rules : LandingRules Unit} {ctx : Context Unit} {seen : LandingScan}
    (h : walk (fun index item seen => ((visitLanding rules ctx index item seen).run ()).1) 0 items
      { landing := false } = .ok (.going seen)) : seen.Describes rules.lands items := by
  refine walk_going (I := fun before seen => seen.Describes rules.lands before) ?_ ⟨rfl, rfl, fun _ => ⟨rfl, nofun⟩⟩ h
  intro before item after seen next _ hseen hvisit
  rcases visitLanding_going hvisit with ⟨hlands, -, rfl⟩ | ⟨hlands, rfl⟩
  · exact describes_land before (seen.start before.length item) hlands
  · exact describes_start hseen hlands

def startsWithLandStart (items : List Item) : Bool := items.head?.any (·.carries .doLandStart)

theorem landing_of_any {lands : Item → Bool} {seen : LandingScan} (h : seen.Describes lands items)
    (hlands : items.any lands = true) : seen.landing = true := by
  obtain ⟨item, hitem, lands⟩ := List.any_eq_true.mp hlands
  rw [h.landing, List.any_eq_true]
  exact ⟨item, hitem, by simp [lands]⟩

theorem landing_of_validated {lands : Item → Bool} {seen : LandingScan} (h : seen.Describes lands items)
    (hvalid : seen.isInvalid true = false) : seen.landing = items.any lands := by
  cases hlands : items.any lands with
  | true => exact landing_of_any h hlands
  | false =>
    have unvalidated : seen.validated = false := h.validated.trans hlands
    simpa [LandingScan.isInvalid, unvalidated] using hvalid

theorem landing_of_unvalidated {lands : Item → Bool} {seen : LandingScan} (h : seen.Describes lands items)
    (hvalid : seen.isInvalid false = false) : seen.landing = (items.any lands || startsWithLandStart items) := by
  cases hlands : items.any lands with
  | true =>
    rw [landing_of_any h hlands]
    rfl
  | false =>
    obtain ⟨approach, started⟩ := h.unlanded hlands
    rw [Bool.false_or]
    cases hlanding : seen.landing with
    | true =>
      obtain ⟨item, found, hstart⟩ := started hlanding
      have first : seen.landStart = 0 := by simpa [LandingScan.isInvalid, hlanding, approach] using hvalid
      rw [first] at found
      simp [startsWithLandStart, List.head?_eq_getElem?, found, hstart]
    | false =>
      have nothing := h.landing.symm.trans hlanding
      rw [List.any_eq_false] at nothing
      cases items with
      | nil => rfl
      | cons item rest =>
        have first := nothing item (by simp)
        simp only [Bool.or_eq_true, not_or, Bool.not_eq_true] at first
        simp [startsWithLandStart, first.2]

theorem closeLanding_passed {needsValidated : Bool} {progress : Progress LandingScan (Bool × Finding)} :
    (closeLanding needsValidated flags progress).passed = true ↔
      ∃ seen, progress = .going seen ∧ seen.isInvalid needsValidated = false := by
  cases progress with
  | going seen =>
    dsimp only [closeLanding]
    split
    next invalid => simp [Outcome.fail, invalid]
    next valid => simp [Outcome.pass, valid]
  | _ => simp [closeLanding, Outcome.fail, Outcome.unreadable]

theorem landingSequence_onList (rules : LandingRules Unit) (hcount : ctx.count = items.length)
    (h : (landingSequence rules (ctx.onList id items) flags).run () = (.ok outcome, ()))
    (hpassed : outcome.passed = true) :
    ∃ seen : LandingScan, outcome.flags.landing = seen.landing ∧ seen.isInvalid rules.needsValidated = false ∧
      walk (fun index item seen => ((visitLanding rules (ctx.onList id items) index item seen).run ()).1) 0 items
        { landing := flags.landing } = .ok (.going seen) := by
  rw [landingSequence_eq] at h
  rcases settle_onList hcount h with hbefore | ⟨-, progress, rfl, hwalk⟩
  · simp at hbefore
  · obtain ⟨seen, rfl, valid⟩ := closeLanding_passed.mp hpassed
    refine ⟨seen, ?_, valid, hwalk⟩
    dsimp only [closeLanding]
    rw [if_neg (by simp [valid])]
    rfl

def IsRecorded : Progress LandingScan (Bool × Finding) → Prop
  | .going _ => True
  | .stopped result => result.1 = true
  | .unreadable _ seen => seen.landing = true

theorem visitLanding_recorded {rules : LandingRules Unit} {ctx : Context Unit} {index : Nat} {item : Item}
    {seen : LandingScan} {progress : Progress LandingScan (Bool × Finding)}
    (h : ((visitLanding rules ctx index item seen).run ()).1 = .ok progress) : IsRecorded progress := by
  rw [visitLanding_eq] at h
  split at h
  next again =>
    obtain rfl := Except.ok.inj h
    exact (Bool.and_eq_true_iff.mp again).2
  next =>
    split at h
    next hlands =>
      obtain ⟨answer, ⟨⟩, -, h⟩ := Reads.bind_ok (Prod.ext h rfl)
      obtain rfl := Except.ok.inj (Prod.mk.inj h).1
      rcases answer with reason | _ | finding
      · exact rfl
      · trivial
      · exact rfl
    next =>
      split at h
      next returns =>
        obtain rfl := Except.ok.inj h
        exact (Bool.and_eq_true_iff.mp (Bool.and_eq_true_iff.mp returns).1).2
      next =>
        obtain rfl := Except.ok.inj h
        trivial

theorem visitLanding_catches (rules : LandingRules Unit) (ctx : Context Unit) (index : Nat) (item : Item)
    (seen : LandingScan) : (visitLanding rules ctx index item seen).Catches := by
  rw [visitLanding_eq]
  split
  · exact Reads.catches_pure _
  · split
    · exact Reads.catches_bind (Reads.catches_attempt _) fun answer => Reads.catches_pure _
    · split
      · exact Reads.catches_pure _
      · exact Reads.catches_pure _

theorem walk_recorded {rules : LandingRules Unit} {ctx : Context Unit} {start : LandingScan}
    {progress : Progress LandingScan (Bool × Finding)}
    (h : walk (fun index item seen => ((visitLanding rules ctx index item seen).run ()).1) 0 items start =
      .ok progress) : IsRecorded progress := by
  refine walk_induction _ items (I := fun _ _ => True)
    (Q := fun answer => ∀ progress, answer = .ok progress → IsRecorded progress) ?_ ?_ ?_ ?_ ?_ trivial progress h
  · intros
    trivial
  · rintro before item after seen progress - - hvisit - _ ⟨⟩
    exact visitLanding_recorded hvisit
  · rintro before item after seen reason - - hvisit
    exact absurd hvisit (visitLanding_catches rules ctx before.length item seen () reason)
  · rintro before item after seen fault - - - progress ⟨⟩
  · rintro seen - progress ⟨⟩
    trivial

theorem landingSequence_unrecorded (rules : LandingRules Unit) (hcount : ctx.count = items.length)
    (hlanding : flags.landing = false)
    (h : (landingSequence rules (ctx.onList id items) flags).run () = (.ok outcome, ()))
    (hrecord : outcome.flags.landing = false) : items.any rules.lands = false := by
  rw [landingSequence_eq, hlanding] at h
  rcases settle_onList hcount h with hbefore | ⟨-, progress, rfl, hwalk⟩
  · simp at hbefore
  · have recorded := walk_recorded hwalk
    cases progress with
    | going seen =>
      have landing : seen.landing = false := by
        rw [← hrecord]
        dsimp only [closeLanding]
        split <;> rfl
      have nothing := (walk_landing hwalk).landing.symm.trans landing
      rw [List.any_eq_false] at nothing ⊢
      intro item hitem hlands
      exact nothing item hitem (by simp [hlands])
    | stopped result => exact nomatch hrecord.symm.trans recorded
    | unreadable reason seen => exact nomatch hrecord.symm.trans recorded

theorem walk_anyLanding (index : Nat) (items : List Item) (found : Bool) :
    walk (fun _ item found => .ok (.going (found || isLand item) : Progress Bool Finding)) index items found =
      .ok (.going (found || items.any isLand)) := by
  induction items generalizing index found with
  | nil => simp [walk]
  | cons item rest ih => simp only [walk, ih, List.any_cons, Bool.or_assoc]

theorem run_anyLanding (hcount : ctx.count = items.length) :
    ((anyLanding (ctx.onList id items) flags).run ()).1 = .ok (.pass { flags with landing := items.any isLand }) := by
  rw [anyLanding_eq, run_settle_onList hcount]
  change (closeAnyLanding flags <$> walk (fun _ item found => .ok (.going (found || isLand item))) 0 items false) = _
  rw [walk_anyLanding, Bool.false_or]
  rfl

theorem anyLanding_onList (hcount : ctx.count = items.length)
    (h : (anyLanding (ctx.onList id items) flags).run () = (.ok outcome, ())) :
    outcome.flags.landing = items.any isLand := by
  obtain rfl := Except.ok.inj ((run_anyLanding hcount).symm.trans (congrArg Prod.fst h))
  rfl

def recordsLanding (items : List Item) : Airframe → Bool
  | .rotaryWing => items.any isLand
  | .fixedWing => items.any isLand
  | .vtol => items.any isVtolLanding || startsWithLandStart items

theorem landing_onList (hcount : ctx.count = items.length) (hlanding : flags.landing = false) {airframe : Airframe}
    (h : (landing airframe (ctx.onList id items) flags).run () = (.ok outcome, ())) (hpassed : outcome.passed = true) :
    outcome.flags.landing = recordsLanding items airframe := by
  cases airframe with
  | rotaryWing => exact anyLanding_onList hcount h
  | fixedWing =>
    obtain ⟨seen, recorded, hvalid, hwalk⟩ := landingSequence_onList _ hcount h hpassed
    rw [hlanding] at hwalk
    exact recorded.trans (landing_of_validated (walk_landing hwalk) hvalid)
  | vtol =>
    obtain ⟨seen, recorded, hvalid, hwalk⟩ := landingSequence_onList _ hcount h hpassed
    rw [hlanding] at hwalk
    exact recorded.trans (landing_of_unvalidated (walk_landing hwalk) hvalid)

end Preflight.Check
