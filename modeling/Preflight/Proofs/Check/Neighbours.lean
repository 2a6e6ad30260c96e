import Preflight.Proofs.Check.Distance
import Preflight.Proofs.Double
import Preflight.Proofs.Faults

namespace Preflight

variable {σ α β γ : Type}

namespace Limit

theorem toWhole_ok {limit : Limit} {distance : Float} (hon : limit.isOff = .ok false)
    (below : limit.isBelow distance = true) : ∃ n, limit.toWhole = .ok n := by
  cases limit with
  | meters x =>
    have finite : ¬ Breaks (Check.wholeOf x) := by
      rw [Check.breaks_wholeOf, Double.isFinite_of_lt (of_decide_eq_true below) (by simpa [isOff] using hon)]
      exact nofun
    cases whole : Check.wholeOf x with
    | error fault => exact absurd ⟨fault, whole⟩ finite
    | ok n => exact ⟨n, whole⟩
  | whole n => exact ⟨n, rfl⟩
  | unusable kind => exact nomatch hon

end Limit

/-- The same finding about a mission in which the items stand in other places. -/
def Finding.renumber (place : Nat → Nat) : Finding → Finding
  | tooFarApart index distance limit => tooFarApart (place index) distance limit
  | gateTooClose index distance least => gateTooClose (place index) distance least
  | finding => finding

def Outcome.renumber (place : Nat → Nat) (o : Outcome) : Outcome :=
  { o with findings := o.findings.map (·.renumber place) }

def Progress.mapStopped (f : β → γ) : Progress α β → Progress α γ
  | going seen => going seen
  | stopped result => stopped (f result)
  | unreadable reason seen => unreadable reason seen

theorem walk_cons_map {visit : Nat → Item → α → Except Fault (Progress α β)}
    {visit' : Nat → Item → α → Except Fault (Progress α γ)} {f : β → γ} {index index' : Nat} {item : Item}
    {rest rest' : List Item} {seen : α} (now : visit' index' item seen = (·.mapStopped f) <$> visit index item seen)
    (later : ∀ next, walk visit' (index' + 1) rest' next = (·.mapStopped f) <$> walk visit (index + 1) rest next) :
    walk visit' index' (item :: rest') seen = (·.mapStopped f) <$> walk visit index (item :: rest) seen := by
  rw [walk, walk, now]
  rcases visit index item seen with fault | next | result | reason
  · cases fault <;> rfl
  · exact later next
  · rfl
  · rfl

def Context.listing (ctx : Context σ) (id : String) (items : List Item) : Context Unit :=
  { ctx.onList id items with count := items.length }

def Context.rank (ctx : Context σ) (items : List Item) (index : Nat) : Nat := (items.take index).countP ctx.hasPosition

theorem Context.listing_eq {ctx : Context σ} {items : List Item} (hcount : ctx.count = items.length) (id : String) :
    ctx.listing id items = ctx.onList id items := by
  rw [listing, ← hcount]
  rfl

namespace Check

variable {ctx : Context σ} {limit : Limit} {flags : Flags} {id : String} {items : List Item} {last item : Item}
  {index : Nat}

theorem neighbourFault_place (place : Nat → Nat) :
    neighbourFault ctx limit (place index) last item =
      Option.map (Finding.renumber place) <$> neighbourFault ctx limit index last item := by
  unfold neighbourFault
  rcases ctx.distance item.lat item.lon last.lat last.lon with fault | distance
  · rfl
  · simp only [bind, Except.bind]
    split
    · rcases wholeOf distance with fault | whole
      · rfl
      · rcases limit.toWhole with fault | most <;> rfl
    · split <;> rfl

theorem measureNeighbour_place (place : Nat → Nat) (item : Item) (last : Option Item) :
    measureNeighbour ctx limit (place index) item last =
      (·.mapStopped (Finding.renumber place)) <$> measureNeighbour ctx limit index item last := by
  rw [measureNeighbour_eq, measureNeighbour_eq]
  split
  · rfl
  · cases last with
    | none => rfl
    | some last =>
      dsimp only
      rw [neighbourFault_place]
      rcases neighbourFault ctx limit index last item with fault | _ | finding <;> rfl

theorem walk_positions (place : Nat → Nat) {first start : Nat} {last : Option Item}
    (hplace : ∀ k < items.length, place (start + k) = first + ctx.rank items k) :
    walk (measureNeighbour ctx limit) first (items.filter ctx.hasPosition) last =
      (·.mapStopped (Finding.renumber place)) <$> walk (measureNeighbour ctx limit) start items last := by
  -- Both walks are generalized to start in the middle; only a position moves the one over the positions on.
  induction items generalizing first start last with
  | nil => rfl
  | cons item rest ih =>
    have now : place start = first := by simpa [Context.rank] using hplace 0 (by simp)
    have later : ∀ k < rest.length, place (start + 1 + k) =
        (if ctx.hasPosition item then first + 1 else first) + ctx.rank rest k := by
      intro k hk
      rw [show start + 1 + k = start + (k + 1) by omega, hplace (k + 1) (by simpa using hk), Context.rank, Context.rank,
        List.take_succ_cons, List.countP_cons]
      split <;> omega
    cases hposition : ctx.hasPosition item with
    | false =>
      have skipped : measureNeighbour ctx limit start item last = .ok (.going last) := by
        rw [measureNeighbour_eq, hposition]
        rfl
      rw [List.filter_cons_of_neg (by simp [hposition]), walk_next skipped]
      exact ih (by simpa [hposition] using later)
    | true =>
      rw [List.filter_cons_of_pos hposition]
      refine walk_cons_map (now ▸ measureNeighbour_place place item last) fun next => ?_
      exact ih (by simpa [hposition] using later)

theorem run_betweenDistance (ctx : Context σ) (limit : Limit) (flags : Flags) (id : String) (items : List Item) :
    ((betweenDistance limit (ctx.listing id items) flags).run ()).1 =
      match whenOff limit flags with
      | .error fault => .error fault
      | .ok (some outcome) => .ok outcome
      | .ok none => closeBetween flags <$> walk (measureNeighbour ctx limit) 0 items none := by
  have listed := @run_settle_onList σ _ _ { ctx with count := items.length } id items rfl (whenOff limit flags) none
    (fun index item last => .ofExcept (measureNeighbour ctx limit index item last)) (closeBetween flags)
  rw [betweenDistance_eq]
  refine (congrArg Prod.fst listed).trans ?_
  rcases whenOff limit flags with fault | _ | outcome <;> rfl

theorem run_positions (ctx : Context σ) (limit : Limit) (flags : Flags) (id : String) (items : List Item) :
    ((betweenDistance limit (ctx.listing id (items.filter ctx.hasPosition)) flags).run ()).1 =
      (·.renumber (ctx.rank items)) <$> ((betweenDistance limit (ctx.listing id items) flags).run ()).1 := by
  have walked : walk (measureNeighbour ctx limit) 0 (items.filter ctx.hasPosition) none =
      (·.mapStopped (Finding.renumber (ctx.rank items))) <$> walk (measureNeighbour ctx limit) 0 items none :=
    walk_positions (ctx.rank items) fun k _ => by rw [Nat.zero_add, Nat.zero_add]
  rw [run_betweenDistance, run_betweenDistance, walked]
  unfold whenOff
  rcases limit.isOff with fault | _ | _
  · rfl
  · rcases walk (measureNeighbour ctx limit) 0 items none with fault | _ | _ | _ <;> rfl
  · rfl

def IsTooFar (ctx : Context σ) (limit : Limit) (last item : Item) : Prop :=
  ∃ distance, ctx.distance item.lat item.lon last.lat last.lon = .ok distance ∧ limit.isBelow distance = true

def IsTooClose (ctx : Context σ) (last item : Item) : Prop :=
  (isGate item = true ∨ isGate last = true) ∧
    ∃ distance, ctx.distance item.lat item.lon last.lat last.lon = .ok distance ∧ distance < leastGateDistance

def IsApart (ctx : Context σ) (limit : Limit) (last item : Item) : Prop :=
  ¬ IsTooFar ctx limit last item ∧ ¬ IsTooClose ctx last item

def IsMeasured (ctx : Context σ) (limit : Limit) (last item : Item) : Prop :=
  ∃ distance, ctx.distance item.lat item.lon last.lat last.lon = .ok distance ∧
    (limit.isBelow distance = true → Double.isFinite distance = true)

structure RefusedBy (ctx : Context σ) (limit : Limit) (index : Nat) (last item : Item) (finding : Finding) : Prop where
  cites : finding.item = some (Finding.number index)
  code : IsTooFar ctx limit last item ∧ finding.code = "mission_waypoints_too_far" ∨
    ¬ IsTooFar ctx limit last item ∧ IsTooClose ctx last item ∧ finding.code = "mission_gate_too_close"

theorem RefusedBy.not_isApart {finding : Finding} (h : RefusedBy ctx limit index last item finding) :
    ¬ IsApart ctx limit last item := by
  rintro ⟨near, free⟩
  rcases h.code with ⟨far, -⟩ | ⟨-, close, -⟩
  · exact near far
  · exact free close

/-- The item has a position, `last` has the one before it, and up to there all neighbours pass. -/
structure Reaches (ctx : Context σ) (limit : Limit) (before : List Item) (last item : Item) : Prop where
  position : ctx.hasPosition item = true
  neighbour : (before.filter ctx.hasPosition).getLast? = some last
  passed : (before.filter ctx.hasPosition).IsChain (IsApart ctx limit)

def Measures (ctx : Context σ) (limit : Limit) (items : List Item) : Prop :=
  ∀ before item after last, items = before ++ item :: after → Reaches ctx limit before last item →
    IsMeasured ctx limit last item

structure NeighboursJudged (ctx : Context σ) (limit : Limit) (items : List Item) (flags : Flags) (o : Outcome) :
    Prop where
  passed : o.passed = true ↔ (items.filter ctx.hasPosition).IsChain (IsApart ctx limit)
  accepted : o.passed = true → o = .pass flags
  refused : o.passed = false → ∃ before item after last finding, items = before ++ item :: after ∧
    Reaches ctx limit before last item ∧ o = (Outcome.fail flags finding).withWarning ∧
    RefusedBy ctx limit before.length last item finding

theorem neighbourFault_judges (index : Nat) (hon : limit.isOff = .ok false) (measured : IsMeasured ctx limit last item) :
    neighbourFault ctx limit index last item = .ok none ∧ IsApart ctx limit last item ∨
      ∃ finding, neighbourFault ctx limit index last item = .ok (some finding) ∧
        RefusedBy ctx limit index last item finding := by
  obtain ⟨distance, hdistance, finite⟩ := measured
  have far : IsTooFar ctx limit last item ↔ limit.isBelow distance = true := by simp [IsTooFar, hdistance]
  have close : IsTooClose ctx last item ↔
      (distance < leastGateDistance && (isGate item || isGate last)) = true := by
    simp [IsTooClose, hdistance, and_comm]
  rw [neighbourFault, hdistance]
  simp only [bind, Except.bind, pure, Except.pure]
  split
  next below =>
    obtain ⟨most, hmost⟩ := Limit.toWhole_ok hon below
    cases whole : wholeOf distance with
    | error fault =>
      have broken := breaks_wholeOf.mp ⟨fault, whole⟩
      exact nomatch (finite below).symm.trans broken
    | ok n =>
      rw [hmost]
      exact .inr ⟨_, rfl, rfl, .inl ⟨far.mpr below, rfl⟩⟩
  next near =>
    have notFar : ¬ IsTooFar ctx limit last item := mt far.mp near
    split
    next gate => exact .inr ⟨_, rfl, rfl, .inr ⟨notFar, close.mpr gate, rfl⟩⟩
    next free => exact .inl ⟨rfl, notFar, mt close.mp free⟩

theorem walk_judged (hon : limit.isOff = .ok false) (measures : Measures ctx limit items) :
    (∃ last, walk (measureNeighbour ctx limit) 0 items none = .ok (.going last) ∧
        last = (items.filter ctx.hasPosition).getLast? ∧ (items.filter ctx.hasPosition).IsChain (IsApart ctx limit)) ∨
      ∃ finding, walk (measureNeighbour ctx limit) 0 items none = .ok (.stopped finding) ∧
        ∃ before item after last, items = before ++ item :: after ∧ Reaches ctx limit before last item ∧
          RefusedBy ctx limit before.length last item finding := by
  -- The item that the walk carries is the last position of what it came past.
  refine walk_settles (I := fun before last => last = (before.filter ctx.hasPosition).getLast? ∧
    (before.filter ctx.hasPosition).IsChain (IsApart ctx limit)) ?_ ⟨rfl, .nil⟩
  rintro before item after last hitems ⟨rfl, chain⟩
  have visited := measureNeighbour_eq ctx limit before.length item (before.filter ctx.hasPosition).getLast?
  cases hposition : ctx.hasPosition item with
  | false =>
    rw [filter_concat_of_lost hposition]
    exact .inl ⟨_, by simpa [hposition] using visited, rfl, chain⟩
  | true =>
    rw [filter_concat_of_position hposition, List.getLast?_concat]
    simp only [hposition, Bool.not_true, Bool.false_eq_true, if_false] at visited
    cases hlast : (before.filter ctx.hasPosition).getLast? with
    | none =>
      rw [List.getLast?_eq_none_iff.mp hlast]
      rw [hlast] at visited
      exact .inl ⟨_, visited, rfl, .singleton item⟩
    | some last =>
      have reaches : Reaches ctx limit before last item := ⟨hposition, hlast, chain⟩
      rw [hlast] at visited
      rcases neighbourFault_judges before.length hon (measures before item after last hitems reaches) with
        ⟨passed, apart⟩ | ⟨finding, stopped, refused⟩
      · refine .inl ⟨_, visited.trans (congrArg (stopAt (some item) <$> ·) passed), rfl, ?_⟩
        rw [List.isChain_append]
        refine ⟨chain, .singleton item, fun other hother next hnext => ?_⟩
        obtain rfl : last = other := Option.some.inj (hlast.symm.trans hother)
        obtain rfl : item = next := by simpa using hnext
        exact apart
      · have ended := visited.trans (congrArg (stopAt (some item) <$> ·) stopped)
        exact .inr ⟨finding, ended, before, item, after, last, hitems, reaches, refused⟩

theorem not_isChain_of_reaches {before after : List Item} (reaches : Reaches ctx limit before last item)
    (refused : ¬ IsApart ctx limit last item) :
    ¬ ((before ++ item :: after).filter ctx.hasPosition).IsChain (IsApart ctx limit) := by
  intro chain
  rw [List.filter_append, List.filter_cons_of_pos reaches.position, List.isChain_append] at chain
  exact refused (chain.2.2 last reaches.neighbour item rfl)

theorem neighbours_judged (flags : Flags) (id : String) (hon : limit.isOff = .ok false)
    (measures : Measures ctx limit items) :
    ∃ outcome, ((betweenDistance limit (ctx.listing id items) flags).run ()).1 = .ok outcome ∧
      NeighboursJudged ctx limit items flags outcome := by
  rw [run_betweenDistance, whenOff_on hon]
  rcases walk_judged hon measures with ⟨last, hwalk, -, chain⟩ |
    ⟨finding, hwalk, before, item, after, last, rfl, reaches, refused⟩
  · rw [hwalk]
    exact ⟨.pass flags, rfl, iff_of_true rfl chain, fun _ => rfl, by simp [Outcome.pass]⟩
  · rw [hwalk]
    have failed : (Outcome.fail flags finding).withWarning.passed ≠ true := by
      simp [Outcome.fail, Outcome.withWarning]
    refine ⟨(Outcome.fail flags finding).withWarning, rfl, ?_, fun passed => absurd passed failed, fun _ => ?_⟩
    · exact iff_of_false failed (not_isChain_of_reaches reaches refused.not_isApart)
    · exact ⟨before, item, after, last, finding, rfl, reaches, rfl, refused⟩

/-- The check between waypoints ends and judges the neighbouring positions. It answers the same, but for the number of
the item it cites, for every mission with these positions, and for the positions alone. -/
theorem betweenDistance_judges (ctx : Context σ) (limit : Limit) (flags : Flags) (items : List Item) (store : σ)
    (hheld : ctx.Holds items store) (hon : limit.isOff = .ok false) (hmeasures : Measures ctx limit items) :
    ∃ outcome, ((betweenDistance limit ctx flags).run store).1 = .ok outcome ∧
      NeighboursJudged ctx limit items flags outcome ∧ ∀ id,
        ((betweenDistance limit (ctx.listing id (items.filter ctx.hasPosition)) flags).run ()).1 =
          .ok (outcome.renumber (ctx.rank items)) ∧
        ∀ others, others.filter ctx.hasPosition = items.filter ctx.hasPosition →
          ∃ other, ((betweenDistance limit (ctx.listing id others) flags).run ()).1 = .ok other ∧
            other.renumber (ctx.rank others) = outcome.renumber (ctx.rank items) := by
  obtain ⟨R, hstore, reads⟩ := hheld.agree ""
  have agree : Reads.Agree R (betweenDistance limit ctx flags) _ := betweenDistance_agree reads
  obtain ⟨answer, -⟩ := agree store () hstore
  obtain ⟨outcome, listed, judged⟩ := neighbours_judged flags "" hon hmeasures
  have alone (id : String) :
      ((betweenDistance limit (ctx.listing id (items.filter ctx.hasPosition)) flags).run ()).1 =
        .ok (outcome.renumber (ctx.rank items)) := by
    have same : ((betweenDistance limit (ctx.listing id items) flags).run ()).1 = .ok outcome := by
      rw [← listed, run_betweenDistance, run_betweenDistance]
    rw [run_positions, same]
    rfl
  refine ⟨outcome, ?_, judged, fun id => ⟨alone id, fun others hothers => ?_⟩⟩
  · rw [answer, ← listed, Context.listing_eq hheld.1]
    rfl
  · have positions := run_positions ctx limit flags id others
    rw [hothers, alone id] at positions
    obtain ⟨other, hother, renumbered⟩ := Fault.map_ok positions.symm
    exact ⟨other, hother, renumbered⟩

theorem betweenDistance_judges_gate :
    let items : List Item := [{ code := Command.waypoint.code, lat := 47.39, lon := 8.54 },
      { code := Command.doSetServo.code }, { code := Command.conditionGate.code, lat := 47.39, lon := 8.54 }]
    let ctx : Context Unit :=
      { read := readList "m" items, count := 3, vehicle := {}, fence := .unlimited
        distance := Geodesy.distance, hasPosition := Item.hasPosition }
    ctx.Holds items () ∧ (Limit.meters 900.0).isOff = .ok false ∧ Measures ctx (.meters 900.0) items ∧ ∃ outcome,
      ((betweenDistance (.meters 900.0) ctx {}).run ()).1 = .ok outcome ∧
        NeighboursJudged ctx (.meters 900.0) items {} outcome ∧ outcome.passed = false := by
  intro items ctx
  have held : ctx.Holds items () := show (ctx.onList "m" items).Holds items () from
    Context.holds_onList rfl "m"
  have on : (Limit.meters 900.0).isOff = .ok false := by decide +kernel
  have near : (Geodesy.distance 47.39 8.54 47.39 8.54).toOption.map (fun distance =>
      ((Limit.meters 900.0).isBelow distance, decide (distance < leastGateDistance))) = some (false, true) := by
    decide +kernel
  cases measured : Geodesy.distance 47.39 8.54 47.39 8.54 with
  | error fault => simp [measured, Except.toOption] at near
  | ok distance =>
    obtain ⟨below, close⟩ : (Limit.meters 900.0).isBelow distance = false ∧ distance < leastGateDistance := by
      simpa [measured, Except.toOption] using near
    have placed : ∀ item ∈ items, ctx.hasPosition item = true → item.lat = 47.39 ∧ item.lon = 8.54 := by
      intro item hitem hposition
      obtain rfl | rfl | rfl : item = _ ∨ item = _ ∨ item = _ := by simpa [items] using hitem
      · exact ⟨rfl, rfl⟩
      · exact absurd hposition (by decide)
      · exact ⟨rfl, rfl⟩
    have measures : Measures ctx (.meters 900.0) items := by
      intro before item after last hitems reaches
      obtain ⟨hlast, hposition⟩ := List.mem_filter.mp (List.mem_of_getLast? reaches.neighbour)
      obtain ⟨lat, lon⟩ := placed item (by simp [hitems]) reaches.position
      obtain ⟨lat', lon'⟩ := placed last (by simp [hitems, hlast]) hposition
      refine ⟨distance, ?_, fun above => nomatch below.symm.trans above⟩
      rw [lat, lon, lat', lon']
      exact measured
    obtain ⟨outcome, answer, judged, -⟩ := betweenDistance_judges ctx (.meters 900.0) {} items () held on measures
    refine ⟨held, on, measures, outcome, answer, judged, eq_false_of_ne_true (mt judged.passed.mp fun chain => ?_)⟩
    have apart : IsApart ctx (.meters 900.0) items[0] items[2] := (List.isChain_cons_cons.mp chain).1
    exact apart.2 ⟨.inl (by decide), distance, measured, close⟩

end Check

end Preflight
