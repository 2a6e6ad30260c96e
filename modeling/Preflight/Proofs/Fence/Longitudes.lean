import Mathlib.Algebra.Order.Ring.Abs
import Mathlib.Data.Int.ModEq
import Mathlib.Data.List.Forall2
import Preflight.Proofs.Double.Alike
import Preflight.Proofs.Fence.Areas

namespace Preflight

open Geodesy (Point)
open Double (Alike)

namespace Pair

structure Alike (a b : Pair) : Prop where
  high : Double.Alike a.high b.high
  low : Double.Alike a.low b.low

variable {a a' b b' : Pair} {x x' y y' z z' : Float}

theorem alike_ofFloat (h : Double.Alike x x') : (ofFloat x).Alike (ofFloat x') := ⟨h, .refl _⟩

theorem alike_settled (h : Double.Alike x x') (h' : Double.Alike y y') : (settled x y).Alike (settled x' y') :=
  ⟨h.add h', h'.add (h.sub (h.add h'))⟩

theorem alike_lost (hx : Double.Alike x x') (hy : Double.Alike y y') (hz : Double.Alike z z') :
    Double.Alike (lost x y z) (lost x' y' z') :=
  (hy.sub (hz.sub hx)).add (hx.sub (hz.sub (hz.sub hx)))

theorem alike_leading (h : Double.Alike x x') : Double.Alike (leading x) (leading x') :=
  ((Double.Alike.refl _).mul h).sub (((Double.Alike.refl _).mul h).sub h)

namespace Alike

theorem neg (h : a.Alike a') : a.neg.Alike a'.neg := ⟨h.high.neg, h.low.neg⟩

theorem add (h : a.Alike a') (h' : b.Alike b') : (a.add b).Alike (a'.add b') := by
  have high := h.high.add h'.high
  have low := h.low.add h'.low
  have rest := (alike_lost h.high h'.high high).add low
  have sum := high.add rest
  exact alike_settled sum ((alike_lost h.low h'.low low).add (rest.add (high.sub sum)))

theorem sub (h : a.Alike a') (h' : b.Alike b') : (a.sub b).Alike (a'.sub b') := h.add h'.neg

theorem mul (h : a.Alike a') (h' : b.Alike b') : (a.mul b).Alike (a'.mul b') := by
  have ah := alike_leading h.high
  have al := h.high.sub ah
  have bh := alike_leading h'.high
  have bl := h'.high.sub bh
  have high := h.high.mul h'.high
  have rest := ((((ah.mul bh).sub high).add (ah.mul bl)).add (al.mul bh)).add (al.mul bl)
  exact alike_settled high (rest.add ((h.high.mul h'.low).add (h.low.mul h'.high)))

theorem sign_eq (h : a.Alike a') : a.sign = a'.sign := by
  have zero := Double.Alike.refl 0.0
  simp only [sign, h.high.lt_iff zero, h.low.lt_iff zero, zero.lt_iff h.high, zero.lt_iff h.low, h.high.beq_eq zero]

end Alike

end Pair

namespace Ring

structure AlikePoints (p q : Point) : Prop where
  east : Alike p.east q.east
  north : Alike p.north q.north

def AlikeSegments (s s' : Point × Point) : Prop := AlikePoints s.1 s'.1 ∧ AlikePoints s.2 s'.2

variable {a a' b b' p p' : Point}

theorem signOf_eq {x y : Float} (h : Alike x y) : signOf x = signOf y := by
  have zero := Alike.refl 0.0
  simp only [signOf, h.lt_iff zero, zero.lt_iff h]

theorem quickTurn?_eq (ha : AlikePoints a a') (hb : AlikePoints b b') (hp : AlikePoints p p') :
    quickTurn? a b p = quickTurn? a' b' p' := by
  have left := (ha.east.sub hp.east).mul (hb.north.sub hp.north)
  have right := (ha.north.sub hp.north).mul (hb.east.sub hp.east)
  have turn := left.sub right
  have bound := ((left.add right).abs.mul (.refl turnError)).le_iff turn.abs
  simp only [quickTurn?, bound, signOf_eq turn]

theorem carefulTurn_eq (ha : AlikePoints a a') (hb : AlikePoints b b') (hp : AlikePoints p p') :
    carefulTurn a b p = carefulTurn a' b' p' := by
  have difference {x x' y y' : Float} (hx : Alike x x') (hy : Alike y y') :
      ((Pair.ofFloat x).add (.ofFloat (-y))).Alike ((Pair.ofFloat x').add (.ofFloat (-y'))) :=
    (Pair.alike_ofFloat hx).add (Pair.alike_ofFloat hy.neg)
  have east := difference hb.east ha.east
  have north := difference hb.north ha.north
  have east' := difference hp.east hb.east
  have north' := difference hp.north hb.north
  exact ((east.mul north').sub (north.mul east')).sign_eq

theorem turn_eq (ha : AlikePoints a a') (hb : AlikePoints b b') (hp : AlikePoints p p') :
    turn a b p = turn a' b' p' := by
  rw [turn, turn, hp.east.isFinite_eq, hp.north.isFinite_eq, quickTurn?_eq ha hb hp, carefulTurn_eq ha hb hp]

theorem alike_ite {c : Prop} [Decidable c] {x x' y y' : Float} (h : Alike x x') (h' : Alike y y') :
    Alike (if c then x else y) (if c then x' else y') := by
  split
  · exact h
  · exact h'

theorem meet_eq (ha : AlikePoints a a') (hb : AlikePoints b b') (hp : AlikePoints p p') :
    meet p a b = meet p' a' b' := by
  have west := alike_ite (c := b'.east < a'.east) hb.east ha.east
  have east := alike_ite (c := b'.east < a'.east) ha.east hb.east
  simp only [meet, ha.east.lt_iff hp.east, hb.east.lt_iff hp.east, hp.east.beq_eq hb.east, hp.north.beq_eq hb.north,
    ha.north.beq_eq hp.north, hb.north.beq_eq hp.north, hb.east.lt_iff ha.east, west.le_iff hp.east,
    hp.east.le_iff east, hp.north.lt_iff ha.north, hb.north.le_iff hp.north, hp.north.lt_iff hb.north,
    ha.north.le_iff hp.north, turn_eq ha hb hp, hb.north.lt_iff ha.north]

theorem crossesOdd_eq (hp : AlikePoints p p') {segments segments' : List (Point × Point)}
    (h : List.Forall₂ AlikeSegments segments segments') (isOdd : Bool) :
    crossesOdd p isOdd segments = crossesOdd p' isOdd segments' := by
  induction h generalizing isOdd with
  | nil => rfl
  | @cons s s' rest rest' h _ ih =>
    obtain ⟨a, b⟩ := s
    obtain ⟨a', b'⟩ := s'
    rw [crossesOdd, crossesOdd, meet_eq h.1 h.2 hp]
    simp only [ih]

variable {vertices vertices' : List Point}

theorem alike_zip {ends ends' : List Point} (h : List.Forall₂ AlikePoints vertices vertices')
    (h' : List.Forall₂ AlikePoints ends ends') :
    List.Forall₂ AlikeSegments (vertices.zip ends) (vertices'.zip ends') := by
  induction h generalizing ends ends' with
  | nil => exact .nil
  | cons first _ ih =>
    cases h' with
    | nil => exact .nil
    | cons last rest => exact .cons ⟨first, last⟩ (ih rest)

theorem alike_segments (h : List.Forall₂ AlikePoints vertices vertices') :
    List.Forall₂ AlikeSegments (segments ⟨vertices⟩) (segments ⟨vertices'⟩) := by
  cases h with
  | nil => exact .nil
  | cons first rest => exact alike_zip (.cons first rest) (List.rel_append rest (.cons first .nil))

theorem any_eq (h : List.Forall₂ AlikePoints vertices vertices') {test test' : Point → Bool}
    (same : ∀ v v', AlikePoints v v' → test v = test' v') : vertices.any test = vertices'.any test' := by
  induction h with
  | nil => rfl
  | cons first _ ih => rw [List.any_cons, List.any_cons, same _ _ first, ih]

theorem bounds_eq (h : List.Forall₂ AlikePoints vertices vertices') (hp : AlikePoints p p') :
    bounds ⟨vertices⟩ p = bounds ⟨vertices'⟩ p' := by
  have west : vertices.any (·.east ≤ p.east) = vertices'.any (·.east ≤ p'.east) :=
    any_eq h fun v v' hv => decide_eq_decide.mpr (hv.east.le_iff hp.east)
  have east : vertices.any (p.east ≤ ·.east) = vertices'.any (p'.east ≤ ·.east) :=
    any_eq h fun v v' hv => decide_eq_decide.mpr (hp.east.le_iff hv.east)
  have south : vertices.any (·.north ≤ p.north) = vertices'.any (·.north ≤ p'.north) :=
    any_eq h fun v v' hv => decide_eq_decide.mpr (hv.north.le_iff hp.north)
  have north : vertices.any (p.north ≤ ·.north) = vertices'.any (p'.north ≤ ·.north) :=
    any_eq h fun v v' hv => decide_eq_decide.mpr (hp.north.le_iff hv.north)
  rw [bounds, bounds, west, east, south, north]

theorem contains_eq (h : List.Forall₂ AlikePoints vertices vertices') (hp : AlikePoints p p') :
    contains ⟨vertices⟩ p = contains ⟨vertices'⟩ p' := by
  rw [contains, contains, bounds_eq h hp, crossesOdd_eq hp (alike_segments h)]

theorem closes_eq (h : List.Forall₂ AlikePoints vertices vertices') : closes ⟨vertices⟩ = closes ⟨vertices'⟩ := by
  cases h with
  | nil => rfl
  | cons first _ =>
    rw [closes, closes]
    simp only [first.east.beq_eq first.east, first.north.beq_eq first.north]

end Ring

namespace Polygon

def plot (width : Float) (origin v : Position) : Point where
  north := Geodesy.radians (v.lat - origin.lat) * Geodesy.earthRadius
  east := Geodesy.radians (v.lon - origin.lon) * Geodesy.earthRadius * width

theorem project_eq (origin v : Position) : Geodesy.project v.lat v.lon origin.lat origin.lon =
    Geodesy.cos (Geodesy.radians origin.lat) >>= fun width => pure (plot width origin v) := rfl

def encloses (vertices : List Position) (inclusion : Bool) (place : Position) : Except Fault Bool :=
  ofVertices vertices inclusion >>= fun p => p.contains place.lat place.lon

theorem encloses_few {vertices : List Position} (few : vertices.length < leastVertices) (inclusion : Bool)
    (place : Position) : encloses vertices inclusion place = .ok false := by
  unfold encloses ofVertices
  cases vertices with
  | nil => rfl
  | cons first rest =>
    dsimp only
    rw [if_pos few]
    change (if hasExtent ⟨first :: rest, inclusion, ⟨[]⟩⟩ = true then _ else _ : Except Fault Bool) = _
    rw [hasExtent, decide_eq_false (Nat.not_le.mpr few)]
    rfl

theorem encloses_eq {first : Position} {rest : List Position} (enough : leastVertices ≤ (first :: rest).length)
    (inclusion : Bool) (place : Position) : encloses (first :: rest) inclusion place =
      Geodesy.cos (Geodesy.radians first.lat) >>= fun width =>
        if Ring.closes ⟨(first :: rest).map (plot width first)⟩ then
          Ring.contains ⟨(first :: rest).map (plot width first)⟩ (plot width first place)
        else .error .openRing := by
  unfold encloses ofVertices
  dsimp only
  rw [if_neg (Nat.not_lt.mpr enough)]
  simp only [project_eq]
  cases hwidth : Geodesy.cos (Geodesy.radians first.lat) with
  | error fault => rfl
  | ok width =>
    have plotted : (first :: rest).mapM (fun v => (Except.ok width : Except Fault Float) >>= fun width =>
        pure (plot width first v)) = .ok ((first :: rest).map (plot width first)) := List.mapM_pure
    rw [plotted]
    simp only [Fault.ok_bind]
    split
    · change (if hasExtent ⟨first :: rest, inclusion, _⟩ = true then _ else _ : Except Fault Bool) = _
      rw [hasExtent, decide_eq_true enough, if_pos rfl, project_eq, hwidth]
      rfl
    · rfl

end Polygon

namespace Double

def wholeTurn : Int := 360 * twoTo 1074

structure SameMeridian (x y : Float) : Prop where
  finite : isFinite x = true
  finite' : isFinite y = true
  turns : units x ≡ units y [ZMOD wholeTurn]

theorem sameMeridian_iff {x y : Float} : SameMeridian x y ↔
    isFinite x = true ∧ isFinite y = true ∧ units x ≡ units y [ZMOD wholeTurn] :=
  ⟨fun ⟨finite, finite', turns⟩ => ⟨finite, finite', turns⟩, fun ⟨finite, finite', turns⟩ => ⟨finite, finite', turns⟩⟩

instance (x y : Float) : Decidable (SameMeridian x y) := decidable_of_iff _ sameMeridian_iff.symm

def WithinHalfTurn (x y : Float) : Prop := 2 * |units x - units y| < wholeTurn

instance (x y : Float) : Decidable (WithinHalfTurn x y) := inferInstanceAs (Decidable (2 * _ < wholeTurn))

theorem wholeTurn_pos : 0 < wholeTurn := Int.mul_pos (by decide) (Int.natCast_pos.mpr (twoTo_pos 1074))

theorem alike_sub_of_meridians {x x' y y' : Float} (hx : SameMeridian x x') (hy : SameMeridian y y')
    (near : WithinHalfTurn x y) (near' : WithinHalfTurn x' y') : Alike (x - y) (x' - y') := by
  apply alike_sub_of_units hx.finite hy.finite hx.finite' hy.finite'
  -- The differences are some whole turns apart, and each is less than half a turn, so it is none.
  obtain ⟨k, hk⟩ : wholeTurn ∣ (units x' - units y') - (units x - units y) := (hx.turns.sub hy.turns).dvd
  have bound : wholeTurn * |k| < wholeTurn * 1 := by
    have apart := abs_sub (units x' - units y') (units x - units y)
    rw [← abs_of_pos wholeTurn_pos, ← abs_mul, ← hk, abs_of_pos wholeTurn_pos]
    unfold WithinHalfTurn at near near'
    omega
  have none : k = 0 := Int.abs_lt_one_iff.mp ((Int.mul_lt_mul_left wholeTurn_pos).mp bound)
  rw [none, Int.mul_zero] at hk
  omega

end Double

open Double (SameMeridian WithinHalfTurn)

structure Position.Renamed (v v' : Position) : Prop where
  lat : v.lat = v'.lat
  lon : SameMeridian v.lon v'.lon

namespace Polygon

def Spans (vertices : List Position) (place : Position) : Prop :=
  ∀ first ∈ vertices.head?, ∀ v ∈ place :: vertices, WithinHalfTurn v.lon first.lon

theorem alike_plot {first first' v v' : Position} (hfirst : first.Renamed first') (hv : v.Renamed v')
    (near : WithinHalfTurn v.lon first.lon) (near' : WithinHalfTurn v'.lon first'.lon) (width : Float) :
    Ring.AlikePoints (plot width first v) (plot width first' v') := by
  have east := Double.alike_sub_of_meridians hv.lon hfirst.lon near near'
  constructor
  · exact ((east.mul (.refl _)).mul (.refl _)).mul (.refl _)
  · rw [plot, plot, hv.lat, hfirst.lat]
    exact .refl _

theorem alike_plots {first first' : Position} {vertices vertices' : List Position} (hfirst : first.Renamed first')
    (hv : List.Forall₂ Position.Renamed vertices vertices') (near : ∀ v ∈ vertices, WithinHalfTurn v.lon first.lon)
    (near' : ∀ v ∈ vertices', WithinHalfTurn v.lon first'.lon) (width : Float) :
    List.Forall₂ Ring.AlikePoints (vertices.map (plot width first)) (vertices'.map (plot width first')) := by
  induction hv with
  | nil => exact .nil
  | cons h _ ih =>
    rw [List.forall_mem_cons] at near near'
    exact .cons (alike_plot hfirst h near.1 near'.1 width) (ih near.2 near'.2)

/-- A polygon contains the same positions whatever its longitudes are called, if under both names they lie within half a
turn of the first one. -/
theorem encloses_renamed (vertices vertices' : List Position) (place place' : Position) (inclusion : Bool)
    (hv : List.Forall₂ Position.Renamed vertices vertices') (hplace : place.Renamed place')
    (spans : Spans vertices place) (spans' : Spans vertices' place') :
    encloses vertices inclusion place = encloses vertices' inclusion place' := by
  have length := hv.length_eq
  cases hv with
  | nil =>
    have none : ([] : List Position).length < leastVertices := by decide
    rw [encloses_few none, encloses_few none]
  | @cons first first' rest rest' hfirst hrest =>
    by_cases enough : leastVertices ≤ (first :: rest).length
    · rw [encloses_eq enough, encloses_eq (length ▸ enough), hfirst.lat]
      have near := List.forall_mem_cons.mp (spans first rfl)
      have near' := List.forall_mem_cons.mp (spans' first' rfl)
      apply bind_congr
      intro width
      have ring := alike_plots hfirst (.cons hfirst hrest) near.2 near'.2 width
      have point := alike_plot hfirst hplace near.1 near'.1 width
      rw [Ring.closes_eq ring, Ring.contains_eq ring point]
    · rw [encloses_few (Nat.not_le.mp enough), encloses_few (Nat.not_le.mp (length ▸ enough))]

theorem encloses_renamed_dateline :
    let vertices : List Position := [⟨-0.03, 179.97⟩, ⟨0.03, 179.97⟩, ⟨0.03, 180.03⟩, ⟨-0.03, 180.03⟩]
    let vertices' : List Position := [⟨-0.03, -180.03⟩, ⟨0.03, -180.03⟩, ⟨0.03, -179.97⟩, ⟨-0.03, -179.97⟩]
    List.Forall₂ Position.Renamed vertices vertices' ∧ Position.Renamed ⟨0.0, 180.0⟩ ⟨0.0, -180.0⟩ ∧
      Spans vertices ⟨0.0, 180.0⟩ ∧ Spans vertices' ⟨0.0, -180.0⟩ ∧
      encloses vertices' true ⟨0.0, -180.0⟩ = .ok true := by
  intro vertices vertices'
  have renamed : List.Forall₂ Position.Renamed vertices vertices' :=
    .cons ⟨rfl, by decide +kernel⟩ (.cons ⟨rfl, by decide +kernel⟩ (.cons ⟨rfl, by decide +kernel⟩
      (.cons ⟨rfl, by decide +kernel⟩ .nil)))
  have place : Position.Renamed ⟨0.0, 180.0⟩ ⟨0.0, -180.0⟩ := ⟨rfl, by decide +kernel⟩
  have spans : Spans vertices ⟨0.0, 180.0⟩ := by
    rintro _ ⟨⟩
    decide +kernel
  have spans' : Spans vertices' ⟨0.0, -180.0⟩ := by
    rintro _ ⟨⟩
    decide +kernel
  have inside : encloses vertices true ⟨0.0, 180.0⟩ = .ok true := by decide +kernel
  exact ⟨renamed, place, spans, spans',
    (encloses_renamed vertices vertices' ⟨0.0, 180.0⟩ ⟨0.0, -180.0⟩ true renamed place spans spans').symm.trans inside⟩

/-- With longitudes from both sides, the polygon is the rest of its parallel; a circle there is none the wiser. -/
theorem encloses_around :
    let vertices : List Position := [⟨-0.03, 179.97⟩, ⟨0.03, 179.97⟩, ⟨0.03, 180.03⟩, ⟨-0.03, 180.03⟩]
    let vertices' : List Position := [⟨-0.03, 179.97⟩, ⟨0.03, 179.97⟩, ⟨0.03, -179.97⟩, ⟨-0.03, -179.97⟩]
    let circle : Circle := ⟨⟨0.0, 179.97⟩, 10000.0, true⟩
    List.Forall₂ Position.Renamed vertices vertices' ∧
      (encloses vertices true ⟨0.0, 180.0⟩ = .ok true ∧ encloses vertices' true ⟨0.0, 180.0⟩ = .ok false) ∧
      (encloses vertices true ⟨0.0, 0.0⟩ = .ok false ∧ encloses vertices' true ⟨0.0, 0.0⟩ = .ok true) ∧
      circle.contains 0.0 180.03 = .ok true ∧ circle.contains 0.0 (-179.97) = .ok true := by
  refine ⟨.cons ⟨rfl, ?_⟩ (.cons ⟨rfl, ?_⟩ (.cons ⟨rfl, ?_⟩ (.cons ⟨rfl, ?_⟩ .nil))), ⟨?_, ?_⟩, ⟨?_, ?_⟩, ?_, ?_⟩
  all_goals decide +kernel

end Polygon

end Preflight
