import Mathlib.Data.List.TakeWhile
import Preflight.Proofs.Check.Takeoff

namespace Preflight.Check

variable {σ : Type} {ctx : Context σ} {vehicle : Vehicle} {flags : Flags} {id : String} {items before : List Item}
  {item : Item} {seen : TakeoffScan}

def isLowTakeoff (vehicle : Vehicle) (item : Item) : Bool := isTakeoff item && isTooLow vehicle item

def leading (items : List Item) : List Item := items.takeWhile (!isTakeoff ·)

def IsPrepared (items : List Item) : Prop :=
  items.any isTakeoff = true → ∀ item ∈ leading items, item.capability.preTakeoff = true

theorem leading_eq_self (h : items.any isTakeoff = false) : leading items = items := by
  rw [leading, List.takeWhile_eq_self_iff]
  simpa using h

theorem leading_append_of_none (h : before.any isTakeoff = false) :
    leading (before ++ [item]) = if isTakeoff item then before else before ++ [item] := by
  have others : ∀ other ∈ before, (!isTakeoff other) = true := by simpa using h
  rw [leading, List.takeWhile_append_of_pos others]
  cases htakeoff : isTakeoff item <;> simp [htakeoff]

theorem leading_append_of_any {after : List Item} (h : before.any isTakeoff = true) :
    leading (before ++ after) = leading before := by
  induction before with
  | nil => cases h
  | cons first rest ih =>
    cases htakeoff : isTakeoff first with
    | true => simp [leading, htakeoff]
    | false =>
      have later := ih (by simpa [htakeoff] using h)
      simpa [leading, htakeoff] using later

structure TakeoffScan.Orders (before : List Item) (seen : TakeoffScan) : Prop where
  first : seen.first = before.findIdx? isTakeoff
  prepared : seen.prepared = (leading before).all (·.capability.preTakeoff)

def TakeoffScan.past (seen : TakeoffScan) (index : Nat) (item : Item) : TakeoffScan :=
  if isTakeoff item then { seen with takeoff := true, first := some (seen.first.getD index) }
  else { seen with prepared := seen.prepared && (seen.first.isSome || item.capability.preTakeoff) }

theorem visitTakeoff_eq (vehicle : Vehicle) (index : Nat) (item : Item) (seen : TakeoffScan) :
    visitTakeoff vehicle index item seen =
      if isLowTakeoff vehicle item then .stopped (seen.takeoff, .takeoffTooLow index (leastHeight vehicle item))
      else .going (seen.past index item) := by
  unfold visitTakeoff isLowTakeoff TakeoffScan.past
  cases isTakeoff item <;> cases isTooLow vehicle item <;> rfl

theorem orders_past (h : seen.Orders before) (item : Item) :
    (seen.past before.length item).Orders (before ++ [item]) := by
  have isSome : seen.first.isSome = before.any isTakeoff := by rw [h.first, List.findIdx?_isSome]
  unfold TakeoffScan.past
  split
  next htakeoff =>
    constructor
    case first =>
      change some (seen.first.getD before.length) = _
      rw [h.first, List.findIdx?_append]
      cases before.findIdx? isTakeoff <;> simp [htakeoff]
    case prepared =>
      refine h.prepared.trans ?_
      cases hany : before.any isTakeoff with
      | true => rw [leading_append_of_any hany]
      | false => rw [leading_append_of_none hany, leading_eq_self hany, if_pos htakeoff]
  next hother =>
    constructor
    case first => simp [h.first, List.findIdx?_append, hother]
    case prepared =>
      change (seen.prepared && (seen.first.isSome || item.capability.preTakeoff)) = _
      rw [isSome, h.prepared]
      cases hany : before.any isTakeoff with
      | true => simp [leading_append_of_any hany]
      | false => simp [leading_append_of_none hany, leading_eq_self hany, hother]

theorem walk_takeoff (vehicle : Vehicle) (takesOff : Bool) (items : List Item) :
    (∃ seen : TakeoffScan, walk (fun index item seen => .ok (visitTakeoff vehicle index item seen)) 0 items
        { takeoff := takesOff } = .ok (.going seen) ∧ seen.Describes vehicle takesOff items ∧ seen.Orders items) ∨
      ∃ result, walk (fun index item seen => .ok (visitTakeoff vehicle index item seen)) 0 items
          { takeoff := takesOff } = .ok (.stopped result) ∧
        ∃ before low after, items = before ++ low :: after ∧ isLowTakeoff vehicle low = true ∧
          (∀ item ∈ before, isLowTakeoff vehicle item = false) ∧
          result = (takesOff || before.any isTakeoff, .takeoffTooLow before.length (leastHeight vehicle low)) := by
  refine walk_settles (I := fun before (seen : TakeoffScan) => seen.Describes vehicle takesOff before ∧
    seen.Orders before) ?_ ⟨by simp [TakeoffScan.Describes], rfl, rfl⟩
  rintro before item after seen hitems ⟨described, orders⟩
  have visited := visitTakeoff_eq vehicle before.length item seen
  cases hlow : isLowTakeoff vehicle item with
  | true =>
    rw [if_pos hlow] at visited
    refine .inr ⟨_, congrArg Except.ok visited, before, item, after, hitems, hlow, fun other hother => ?_, ?_⟩
    · simpa [isLowTakeoff] using described.2 other hother
    · rw [described.1]
  | false =>
    rw [if_neg (by simp [hlow])] at visited
    exact .inl ⟨_, congrArg Except.ok visited, describes_takeoff described visited, orders_past orders item⟩

structure TakeoffsJudged (vehicle : Vehicle) (items : List Item) (flags : Flags) (o : Outcome) : Prop where
  passed : o.passed = true ↔ (∀ item ∈ items, isLowTakeoff vehicle item = false) ∧ IsPrepared items
  tooLow : ∀ (index : Nat) low, items.findIdx? (isLowTakeoff vehicle) = some index → items[index]? = some low →
    o.findings = [.takeoffTooLow index (leastHeight vehicle low)]
  notFirst : (∀ item ∈ items, isLowTakeoff vehicle item = false) → o.passed = false →
    ∃ index, items.findIdx? isTakeoff = some index ∧ o.findings = [.takeoffNotFirst index]
  takeoff : o.flags.takeoff = (flags.takeoff || (items.takeWhile (!isLowTakeoff vehicle ·)).any isTakeoff)
  landing : o.flags.landing = flags.landing

theorem closeTakeoff_flags (flags : Flags) (seen : TakeoffScan) :
    (closeTakeoff flags (.going seen)).flags = { flags with takeoff := seen.takeoff } := by
  dsimp only [closeTakeoff]
  split
  · split <;> rfl
  · rfl

theorem closeTakeoff_passed (flags : Flags) (seen : TakeoffScan) :
    (closeTakeoff flags (.going seen)).passed = true ↔ (seen.first.isSome = true → seen.prepared = true) := by
  dsimp only [closeTakeoff]
  cases seen.first with
  | none => exact iff_of_true rfl nofun
  | some index =>
    dsimp only
    split
    next prepared => exact iff_of_true rfl fun _ => prepared
    next unprepared => exact iff_of_false nofun fun h => unprepared (h rfl)

theorem closeTakeoff_failed (h : (closeTakeoff flags (.going seen)).passed = false) :
    ∃ index, seen.first = some index ∧ (closeTakeoff flags (.going seen)).findings = [.takeoffNotFirst index] := by
  dsimp only [closeTakeoff] at h ⊢
  cases hfirst : seen.first with
  | none => simp [hfirst, Outcome.pass] at h
  | some index =>
    rw [hfirst] at h
    dsimp only at h ⊢
    split at h
    · exact nomatch h
    next unprepared => exact ⟨index, rfl, by rw [if_neg unprepared]; rfl⟩

theorem takeWhile_high (high : ∀ item ∈ items, isLowTakeoff vehicle item = false) :
    items.takeWhile (!isLowTakeoff vehicle ·) = items := by
  rw [List.takeWhile_eq_self_iff]
  simpa using high

theorem judged_going (described : seen.Describes vehicle flags.takeoff items) (orders : seen.Orders items) :
    TakeoffsJudged vehicle items flags (closeTakeoff flags (.going seen)) := by
  have high : ∀ item ∈ items, isLowTakeoff vehicle item = false := by
    intro item hitem
    simpa [isLowTakeoff] using described.2 item hitem
  have takes : seen.first.isSome = items.any isTakeoff := by rw [orders.first, List.findIdx?_isSome]
  constructor
  case passed =>
    rw [closeTakeoff_passed, takes, orders.prepared, List.all_eq_true]
    exact (and_iff_right high).symm
  case tooLow =>
    intro index low hindex
    rw [List.findIdx?_eq_none_iff.mpr high] at hindex
    cases hindex
  case notFirst =>
    intro _ failed
    rw [← orders.first]
    exact closeTakeoff_failed failed
  case takeoff =>
    rw [closeTakeoff_flags, takeWhile_high high]
    exact described.1
  case landing => rw [closeTakeoff_flags]

theorem judged_stopped {low : Item} {after : List Item} (hlow : isLowTakeoff vehicle low = true)
    (high : ∀ item ∈ before, isLowTakeoff vehicle item = false) :
    TakeoffsJudged vehicle (before ++ low :: after) flags (closeTakeoff flags
      (.stopped (flags.takeoff || before.any isTakeoff, .takeoffTooLow before.length (leastHeight vehicle low)))) := by
  have first : (before ++ low :: after).findIdx? (isLowTakeoff vehicle) = some before.length := by
    simp [List.findIdx?_append, List.findIdx?_eq_none_iff.mpr high, List.findIdx?_cons, hlow]
  have lowered : ¬ ∀ item ∈ before ++ low :: after, isLowTakeoff vehicle item = false :=
    fun unlowered => nomatch (unlowered low (by simp)).symm.trans hlow
  have ahead : (before ++ low :: after).takeWhile (!isLowTakeoff vehicle ·) = before := by
    rw [List.takeWhile_append_of_pos (by simpa using high)]
    simp [hlow]
  constructor
  case passed => exact iff_of_false nofun fun h => lowered h.1
  case tooLow =>
    intro index item hindex hitem
    obtain rfl : before.length = index := Option.some.inj (first.symm.trans hindex)
    obtain rfl : low = item := by simpa using hitem
    rfl
  case notFirst => exact fun unlowered => absurd unlowered lowered
  case takeoff =>
    rw [ahead]
    rfl
  case landing => rfl

def startsLow (vehicle : Vehicle) (items : List Item) : Bool := (items.find? isTakeoff).any (isTooLow vehicle)

theorem any_of_startsLow (h : startsLow vehicle items = true) : items.any isTakeoff = true := by
  rw [← List.isSome_find?]
  unfold startsLow at h
  cases hfirst : items.find? isTakeoff with
  | none => simp [hfirst] at h
  | some first => rfl

theorem takeoff_before_low (vehicle : Vehicle) (items : List Item) :
    (items.takeWhile (!isLowTakeoff vehicle ·)).any isTakeoff = (items.any isTakeoff && !startsLow vehicle items) := by
  induction items with
  | nil => rfl
  | cons item rest ih =>
    unfold startsLow at ih ⊢
    cases htakeoff : isTakeoff item with
    | false => simpa [htakeoff, isLowTakeoff] using ih
    | true => cases hlow : isTooLow vehicle item <;> simp [htakeoff, hlow, isLowTakeoff]

theorem run_takeoff (hcount : ctx.count = items.length) :
    ((takeoff (ctx.onList id items) flags).run ()).1 = closeTakeoff flags <$>
      walk (fun index item seen => .ok (visitTakeoff ctx.vehicle index item seen)) 0 items
        { takeoff := flags.takeoff } := by
  rw [takeoff_eq, run_settle_onList hcount]
  rfl

theorem takeoff_judged (flags : Flags) (id : String) (hcount : ctx.count = items.length) :
    ∃ outcome, ((takeoff (ctx.onList id items) flags).run ()).1 = .ok outcome ∧
      TakeoffsJudged ctx.vehicle items flags outcome := by
  rw [run_takeoff hcount]
  rcases walk_takeoff ctx.vehicle flags.takeoff items with ⟨seen, hwalk, described, orders⟩ |
    ⟨_, hwalk, before, low, after, rfl, hlow, high, rfl⟩
  · rw [hwalk]
    exact ⟨_, rfl, judged_going described orders⟩
  · rw [hwalk]
    exact ⟨_, rfl, judged_stopped hlow high⟩

theorem takeoff_onList {outcome : Outcome} (hcount : ctx.count = items.length)
    (h : (takeoff (ctx.onList id items) flags).run () = (.ok outcome, ())) (hpassed : outcome.passed = true) :
    outcome.flags.takeoff = (flags.takeoff || items.any isTakeoff) ∧
      ∀ item ∈ items, isTakeoff item = true → isTooLow ctx.vehicle item = false := by
  obtain ⟨_, answer, judged⟩ := takeoff_judged flags id hcount
  obtain rfl := Except.ok.inj (answer.symm.trans (congrArg Prod.fst h))
  have high := (judged.passed.mp hpassed).1
  constructor
  · rw [judged.takeoff, takeWhile_high high]
  · intro item hitem htakeoff
    simpa [isLowTakeoff, htakeoff] using high item hitem

theorem takeoff_judges (ctx : Context σ) (items : List Item) (flags : Flags) (store : σ)
    (hheld : ctx.Holds items store) :
    ∃ outcome, ((takeoff ctx flags).run store).1 = .ok outcome ∧ TakeoffsJudged ctx.vehicle items flags outcome := by
  obtain ⟨R, hstore, reads⟩ := hheld.agree ""
  have agree : Reads.Agree R (takeoff ctx flags) _ := takeoff_agree reads
  obtain ⟨answer, -⟩ := agree store () hstore
  rw [answer]
  exact takeoff_judged flags "" hheld.1

theorem takeoff_judges_second :
    let items : List Item := [{ code := Command.takeoff.code, altitude := 20.0 }, { code := Command.waypoint.code },
      { code := Command.takeoff.code, altitude := 5.0 }]
    let unread : Context Unit :=
      { read := fun _ => .ofExcept (.error (.storage "gone")), count := 3, vehicle := {}, fence := .unlimited
        distance := Geodesy.distance, hasPosition := Item.hasPosition }
    (unread.onList "m" items).Holds items () ∧ ∃ outcome,
      ((takeoff (unread.onList "m" items) {}).run ()).1 = .ok outcome ∧ TakeoffsJudged {} items {} outcome ∧
        outcome.passed = false ∧ outcome.flags.takeoff = true := by
  intro items unread
  have held : (unread.onList "m" items).Holds items () := Context.holds_onList rfl "m"
  obtain ⟨outcome, answer, judged⟩ := takeoff_judges (unread.onList "m" items) items {} () held
  refine ⟨held, outcome, answer, judged, ?_, ?_⟩
  · have failed : ¬ ((∀ item ∈ items, isLowTakeoff {} item = false) ∧ IsPrepared items) := fun h => by
      have low := h.1 _ (List.mem_of_getElem? (i := 2) rfl)
      revert low
      decide
    exact eq_false_of_ne_true (mt judged.passed.mp failed)
  · rw [judged.takeoff]
    decide

end Preflight.Check
