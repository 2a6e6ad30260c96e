import Preflight.Proofs.Check.Arithmetic

namespace Preflight

def Finding.remedies? : Finding → Option (Int × Int)
  | .glideSlopeTooSteep _ _ _ altitude needed => some (altitude, needed)
  | _ => none

namespace Check

noncomputable def wholePart (x : ℝ) : Int := if x < 0 then ⌈x⌉ else ⌊x⌋

noncomputable def steepest (angle : ℝ) : ℝ := Real.tan ((angle + 0.1) * (Real.pi / 180))

noncomputable def Arithmetic.exact : Arithmetic ℝ where
  add x y := x + y
  sub x y := x - y
  mul x y := x * y
  div x y := x / y
  abs x := |x|
  ofInt n := n
  ten := 10
  isBelow x y := decide (x < y)
  isUpTo x y := decide (x ≤ y)
  isZero x := decide (x = 0)
  isPositive x := decide (0 < x)
  isFinite _ := true
  truncate x := .ok (wholePart x)
  floor x := .ok ⌊x⌋
  ceiling x := .ok ⌈x⌉
  leastHeight := 1.1920929e-7
  greatestSlope angle := .ok (steepest angle)
  tangentExit center radius :=
    if center * center - |radius| * |radius| < 0 then .error .outsideDomain
    else .ok √(center * center - |radius| * |radius|)

section

variable {angle height length : ℝ} {index : Nat}

theorem isSteeper_exact (long : 0 < length) (greatest : ℝ) :
    Arithmetic.exact.isSteeper height length greatest = decide (greatest < height / length) := by
  rw [Arithmetic.isSteeper, if_pos (show Arithmetic.exact.isPositive length = true from decide_eq_true long)]
  rfl

theorem slopeFault_shallow (long : 0 < length) (shallow : height / length ≤ steepest angle) :
    Arithmetic.exact.slopeFault angle height length index = .ok none := by
  have steeper : Arithmetic.exact.isSteeper height length (steepest angle) = false := by
    rw [isSteeper_exact long, decide_eq_false (not_lt.mpr shallow)]
  change (if Arithmetic.exact.isSteeper height length (steepest angle) = true then _ else _ : Except Fault _) = _
  rw [steeper]
  rfl

theorem slopeFault_steep (long : 0 < length) (positive : 0 < steepest angle)
    (steep : steepest angle < height / length) :
    Arithmetic.exact.slopeFault angle height length index =
      .ok (some (.glideSlopeTooSteep index (wholePart angle) (wholePart ((angle - ⌊angle⌋) * 10))
        ⌊steepest angle * length⌋ ⌈height / steepest angle⌉)) := by
  have steeper : Arithmetic.exact.isSteeper height length (steepest angle) = true := by
    rw [isSteeper_exact long, decide_eq_true steep]
  have quotient : Arithmetic.exact.quotient height (steepest angle) = .ok (height / steepest angle) :=
    if_neg (ne_true_of_eq_false (decide_eq_false positive.ne'))
  have whole : wholePart (steepest angle * length) = ⌊steepest angle * length⌋ :=
    if_neg (not_lt.mpr (mul_pos positive long).le)
  rw [Arithmetic.slopeFault]
  change (if Arithmetic.exact.isSteeper height length (steepest angle) = true then
    (.ok (wholePart (steepest angle * length)) : Except Fault Int) >>= _ else _) = _
  rw [steeper, if_pos rfl, whole, Fault.ok_bind, quotient]
  rfl

theorem slopeFault_eq_tooSteep {degrees tenths altitude needed : Int} (long : 0 < length)
    (positive : 0 < steepest angle)
    (h : Arithmetic.exact.slopeFault angle height length index =
      .ok (some (.glideSlopeTooSteep index degrees tenths altitude needed))) :
    steepest angle < height / length ∧ altitude = ⌊steepest angle * length⌋ ∧ needed = ⌈height / steepest angle⌉ := by
  rcases lt_or_ge (steepest angle) (height / length) with steep | shallow
  · rw [slopeFault_steep long positive steep] at h
    obtain ⟨-, -, -, haltitude, hneeded⟩ := Finding.glideSlopeTooSteep.inj (Option.some.inj (Except.ok.inj h))
    exact ⟨steep, haltitude.symm, hneeded.symm⟩
  · rw [slopeFault_shallow long shallow] at h
    cases Except.ok.inj h

end

namespace Scene

variable {I : Type} (s : Scene I ℝ) {items : List I} {approach lowered further land : I} {angle length : ℝ} {index : Nat}

structure Lowers (approach lowered : I) : Prop where
  code : s.code lowered = s.code approach
  lat : s.lat lowered = s.lat approach
  lon : s.lon lowered = s.lon approach
  loiterRadius : s.loiterRadius lowered = s.loiterRadius approach
  hasPosition : s.hasPosition lowered = s.hasPosition approach

structure Moves (approach further : I) : Prop where
  code : s.code further = s.code approach
  altitude : s.altitude further = s.altitude approach
  relative : s.relative further = s.relative approach
  loiterRadius : s.loiterRadius further = s.loiterRadius approach
  hasPosition : s.hasPosition further = s.hasPosition approach

def readItem (items : List I) (index : Nat) : Except Fault I :=
  match items[index]? with
  | some item => .ok item
  | none => .error (.storage s!"no item {index}")

def stepOn {N : Type} (s : Scene I N) (a : Arithmetic N) (items : List I) (index : Nat) (land : I) :
    Except Fault (Option Finding) := s.step a index (readItem items (index - 1)) land

variable {s}

theorem Lowers.length_eq (h : s.Lowers approach lowered) (index : Nat) (land : I) :
    s.length .exact index lowered land = s.length .exact index approach land := by
  simp only [length, carries, h.code, h.lat, h.lon, h.loiterRadius]
  rfl

theorem Moves.height_eq (h : s.Moves approach further) (land : I) :
    s.height .exact further land = s.height .exact approach land := by
  simp only [height, altitudeAmsl, h.altitude, h.relative]

theorem stepOn_eq (hangle : s.landingAngle = some angle) (later : 0 < index) (found : items[index - 1]? = some approach)
    (land : I) : s.stepOn .exact items index land = s.approachFault .exact angle index approach land := by
  rw [stepOn, step, hangle, readItem, found]
  exact if_neg later.ne'

theorem approachFault_eq (located : s.hasPosition approach = true)
    (hlength : s.length .exact index approach land = .ok (.ok length)) :
    s.approachFault .exact angle index approach land =
      if s.height .exact approach land < 1.1920929e-7 then .ok (some (.approachBelowLand (index - 1)))
      else Arithmetic.exact.slopeFault angle (s.height .exact approach land) length index := by
  have below : Arithmetic.exact.isBelow (s.height .exact approach land) Arithmetic.exact.leastHeight =
      decide (s.height .exact approach land < 1.1920929e-7) := rfl
  simp only [approachFault, located, below, hlength, decide_eq_true_eq, Bool.not_true, Bool.false_eq_true, if_false]
  rfl

theorem stepOn_of_length (hangle : s.landingAngle = some angle) (later : 0 < index)
    (found : items[index - 1]? = some approach) (located : s.hasPosition approach = true)
    (hlength : s.length .exact index approach land = .ok (.ok length)) :
    s.stepOn .exact items index land =
      if s.height .exact approach land < 1.1920929e-7 then .ok (some (.approachBelowLand (index - 1)))
      else Arithmetic.exact.slopeFault angle (s.height .exact approach land) length index :=
  (stepOn_eq hangle later found land).trans (approachFault_eq located hlength)

theorem approach_of_tooSteep {degrees tenths altitude needed : Int} (hangle : s.landingAngle = some angle)
    (found : items[index - 1]? = some approach)
    (h : s.stepOn .exact items index land = .ok (some (.glideSlopeTooSteep index degrees tenths altitude needed))) :
    0 < index ∧ s.hasPosition approach = true := by
  have later : 0 < index := by
    by_contra first
    obtain rfl : index = 0 := by omega
    rw [stepOn, step, hangle] at h
    cases Except.ok.inj h
  refine ⟨later, ?_⟩
  by_contra lost
  rw [stepOn_eq hangle later found, approachFault, Bool.eq_false_iff.mpr lost] at h
  cases Except.ok.inj h

end Scene

section

variable {slope height length : ℝ}

theorem floor_lt_of_steep (long : 0 < length) (steep : slope < height / length) : (⌊slope * length⌋ : ℝ) < height :=
  (Int.floor_le _).trans_lt ((lt_div_iff₀ long).mp steep)

theorem lt_ceil_of_steep (long : 0 < length) (positive : 0 < slope) (steep : slope < height / length) :
    length < ⌈height / slope⌉ := by
  have above : slope * length < height := (lt_div_iff₀ long).mp steep
  exact ((lt_div_iff₀ positive).mpr (by rwa [mul_comm])).trans_le (Int.le_ceil _)

theorem floor_shallow (long : 0 < length) : (⌊slope * length⌋ : ℝ) / length ≤ slope :=
  (div_le_iff₀ long).mpr (Int.floor_le _)

theorem ceil_shallow (positive : 0 < slope) (needed : (0 : ℝ) < ⌈height / slope⌉) :
    height / ⌈height / slope⌉ ≤ slope := by
  rw [div_le_iff₀ needed, mul_comm]
  exact (div_le_iff₀ positive).mp (Int.le_ceil _)

theorem floor_below_iff (long : 0 < length) (positive : 0 < slope) :
    (⌊slope * length⌋ : ℝ) < 1.1920929e-7 ↔ slope * length < 1 := by
  have least : 0 ≤ ⌊slope * length⌋ := Int.floor_nonneg.mpr (mul_pos positive long).le
  constructor
  · intro below
    have none : ⌊slope * length⌋ < 1 := by
      by_contra some
      have one : (1 : ℝ) ≤ ⌊slope * length⌋ := by exact_mod_cast not_lt.mp some
      norm_num at below
      linarith
    exact_mod_cast Int.floor_lt.mp none
  · intro short
    have none : ⌊slope * length⌋ = 0 := by
      have below : ⌊slope * length⌋ < 1 := Int.floor_lt.mpr (by exact_mod_cast short)
      omega
    rw [none]
    norm_num

end

/-- The step is the same in doubles, and the remedies hold without rounding: of a landing that is too steep, a longer
approach is accepted, and a lower one if and only if it still lies above the landing. -/
theorem remedies_accepted_iff {I : Type} (s : Scene I ℝ) (items : List I) (index : Nat) (approach land : I)
    {angle length : ℝ} {degrees tenths altitude needed : Int} (hangle : s.landingAngle = some angle)
    (positive : 0 < steepest angle) (found : items[index - 1]? = some approach) (hland : items[index]? = some land)
    (hlength : s.length .exact index approach land = .ok (.ok length)) (long : 0 < length)
    (rejected : s.stepOn .exact items index land =
      .ok (some (.glideSlopeTooSteep index degrees tenths altitude needed))) :
    (altitude = ⌊steepest angle * length⌋ ∧ altitude < s.height .exact approach land) ∧
      (needed = ⌈s.height .exact approach land / steepest angle⌉ ∧ length < needed) ∧
      (∀ further, s.Moves approach further → s.length .exact index further land = .ok (.ok needed) →
        (items.set (index - 1) further)[index]? = some land ∧
          s.stepOn .exact (items.set (index - 1) further) index land = .ok none) ∧
      (∀ lowered, s.Lowers approach lowered → s.height .exact lowered land = altitude →
        (items.set (index - 1) lowered)[index]? = some land ∧
          (s.stepOn .exact (items.set (index - 1) lowered) index land = .ok none ↔ 1 ≤ steepest angle * length) ∧
          (steepest angle * length < 1 → s.stepOn .exact (items.set (index - 1) lowered) index land =
            .ok (some (.approachBelowLand (index - 1))))) ∧
      ∀ {σ : Type} (ctx : Context σ) (index : Nat) (land : Item) (store : σ),
        ((fixedWingStep ctx index land).run store).1 =
          (Scene.ofContext ctx).step .double index ((ctx.read (index - 1)).run store).1 land := by
  obtain ⟨later, located⟩ := Scene.approach_of_tooSteep hangle found rejected
  have bound : index - 1 < items.length := (List.getElem?_eq_some_iff.mp found).choose
  have kept (item : I) : (items.set (index - 1) item)[index]? = some land := by
    rw [List.getElem?_set_ne (by omega), hland]
  have replaced (item : I) : (items.set (index - 1) item)[index - 1]? = some item := List.getElem?_set_self bound
  rw [Scene.stepOn_of_length hangle later found located hlength] at rejected
  split at rejected
  · cases Except.ok.inj rejected
  next above =>
    obtain ⟨steep, rfl, rfl⟩ := slopeFault_eq_tooSteep long positive rejected
    have longer := lt_ceil_of_steep long positive steep
    refine ⟨⟨rfl, floor_lt_of_steep long steep⟩, ⟨rfl, longer⟩, ?_, ?_, fun ctx => step_ofContext ctx⟩
    · intro further moved hneeded
      refine ⟨kept further, ?_⟩
      rw [Scene.stepOn_of_length hangle later (replaced further) (moved.hasPosition.trans located) hneeded,
        moved.height_eq, if_neg above]
      exact slopeFault_shallow (long.trans longer) (ceil_shallow positive (long.trans longer))
    · intro lowered lowers hheight
      -- The way is as long as before and the slope no longer too steep, so only the height is left to be refused.
      have fault : s.stepOn .exact (items.set (index - 1) lowered) index land =
          if steepest angle * length < 1 then .ok (some (.approachBelowLand (index - 1))) else .ok none := by
        rw [Scene.stepOn_of_length hangle later (replaced lowered) (lowers.hasPosition.trans located)
          ((lowers.length_eq index land).trans hlength), hheight, slopeFault_shallow long (floor_shallow long)]
        simp only [floor_below_iff long positive]
      refine ⟨kept lowered, ?_, fun short => fault.trans (if_pos short)⟩
      rw [fault, ← not_lt]
      split
      next short => exact iff_of_false nofun (not_not_intro short)
      next enough => exact iff_of_true rfl enough

structure Stop where
  code : Int
  lat : ℝ := 0
  lon : ℝ := 0
  altitude : ℝ := 0
  relative : Bool := true
  loiterRadius : ℝ := 0

def Scene.ofStops (angle homeAltitude : ℝ) (distance : ℝ → ℝ → ℝ → ℝ → Except Fault ℝ) : Scene Stop ℝ where
  code := Stop.code
  lat := Stop.lat
  lon := Stop.lon
  altitude := Stop.altitude
  relative := Stop.relative
  loiterRadius := Stop.loiterRadius
  hasPosition stop := (Capability.ofCode stop.code).hasPosition
  landingAngle := some angle
  homeAltitude := homeAltitude
  distance := distance

theorem steepest_eq_one : steepest 44.9 = 1 := by
  have eighth : ((44.9 : ℝ) + 0.1) * (Real.pi / 180) = Real.pi / 4 := by
    norm_num
    ring
  rw [steepest, eighth, Real.tan_pi_div_four]

def steepScene : Scene Stop ℝ := .ofStops 44.9 488 fun lat _ lat' _ => .ok |lat - lat'|

def waypointAt (lat altitude : ℝ) : Stop := { code := Command.waypoint.code, lat, altitude }

def landAtZero : Stop := { code := Command.land.code }

section

variable {lat : ℝ}

theorem length_steepScene (positive : 0 < lat) (altitude : ℝ) :
    steepScene.length .exact 1 (waypointAt lat altitude) landAtZero = .ok (.ok lat) := by
  change (.ok (.ok |lat - 0|) : Except Fault (Except Finding ℝ)) = _
  rw [sub_zero, abs_of_pos positive]

theorem height_steepScene (altitude : ℝ) :
    steepScene.height .exact (waypointAt lat altitude) landAtZero = altitude := by
  change altitude + 488 - (0 + 488) = altitude
  ring

theorem rejected_steepScene (positive : 0 < lat) (short : lat < 10) :
    steepScene.stepOn .exact [waypointAt lat 10, landAtZero] 1 landAtZero =
      .ok (some (.glideSlopeTooSteep 1 44 9 ⌊lat⌋ 10)) := by
  have degrees : wholePart 44.9 = 44 := by
    rw [wholePart, if_neg (by norm_num), Int.floor_eq_iff]
    norm_num
  have tenths : wholePart ((44.9 - ⌊(44.9 : ℝ)⌋) * 10) = 9 := by
    have floor : ⌊(44.9 : ℝ)⌋ = 44 := by
      rw [Int.floor_eq_iff]
      norm_num
    rw [floor, wholePart, if_neg (by norm_num), Int.floor_eq_iff]
    norm_num
  rw [Scene.stepOn_of_length rfl one_pos rfl rfl (length_steepScene positive 10), height_steepScene,
    if_neg (by norm_num), slopeFault_steep positive (by rw [steepest_eq_one]; exact one_pos)
      (by rwa [steepest_eq_one, one_lt_div positive]),
    steepest_eq_one, degrees, tenths, one_mul, div_one, show ⌈(10 : ℝ)⌉ = 10 from Int.ceil_ofNat 10]

theorem remedies_accepted_three :
    steepScene.stepOn .exact [waypointAt 3 10, landAtZero] 1 landAtZero =
        .ok (some (.glideSlopeTooSteep 1 44 9 3 10)) ∧
      steepScene.stepOn .exact [waypointAt 3 3, landAtZero] 1 landAtZero = .ok none ∧
      steepScene.stepOn .exact [waypointAt 10 10, landAtZero] 1 landAtZero = .ok none := by
  have rejected := rejected_steepScene (show (0 : ℝ) < 3 by norm_num) (by norm_num)
  rw [Int.floor_ofNat] at rejected
  obtain ⟨-, -, further, lowered, -⟩ := remedies_accepted_iff steepScene [waypointAt 3 10, landAtZero] 1
    (waypointAt 3 10) landAtZero rfl (by rw [steepest_eq_one]; exact one_pos) rfl rfl
    (length_steepScene (by norm_num) 10) (by norm_num) rejected
  have lower := lowered (waypointAt 3 3) ⟨rfl, rfl, rfl, rfl, rfl⟩ (by rw [height_steepScene]; norm_num)
  have longer := further (waypointAt 10 10) ⟨rfl, rfl, rfl, rfl, rfl⟩
    (by rw [length_steepScene (by norm_num)]; norm_num)
  exact ⟨rejected, lower.2.1.mpr (by rw [steepest_eq_one]; norm_num), longer.2⟩

end

/-- Within a short way the altitude asked for is zero, and an approach at it is refused: without rounding, over half a
meter, and in doubles, with the default landing angle over ten meters. -/
theorem lowered_refused :
    (steepScene.stepOn .exact [waypointAt 0.5 10, landAtZero] 1 landAtZero =
        .ok (some (.glideSlopeTooSteep 1 44 9 0 10)) ∧
      steepScene.stepOn .exact [waypointAt 0.5 0, landAtZero] 1 landAtZero = .ok (some (.approachBelowLand 0))) ∧
    let land : Item := { code := Command.land.code }
    let ctx : Context Unit :=
      { read := fun _ => .ofExcept (.error (.storage "gone")), count := 2
        vehicle := { airframe := .fixedWing, home := .ofNumbers 47.39 8.54 488.0 }
        fence := .unlimited, distance := fun _ _ _ _ => .ok 10.0, hasPosition := Item.hasPosition }
    let found (altitude : Float) := ((fixedWingStep
      (ctx.onList "m" [{ code := Command.waypoint.code, altitude }, land]) 1 land).run ()).1.toOption.join
    (found 5.0).bind Finding.remedies? = some (0, 57) ∧
      (found 0.0).map Finding.code = some "mission_approach_below_land" := by
  refine ⟨⟨?_, ?_⟩, by decide +kernel, by decide +kernel⟩
  · have none : ⌊(0.5 : ℝ)⌋ = 0 := by
      rw [Int.floor_eq_iff]
      norm_num
    rw [rejected_steepScene (by norm_num) (by norm_num), none]
  · rw [Scene.stepOn_of_length rfl one_pos rfl rfl (length_steepScene (by norm_num) 0), height_steepScene,
      if_pos (by norm_num)]
    rfl

end Check

end Preflight
