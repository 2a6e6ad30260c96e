import Preflight.Check.Landing
import Preflight.Proofs.Reads

namespace Preflight

variable {α β : Type} {x : Except Fault α} {f : α → Except Fault β}

def Breaks (x : Except Fault α) : Prop := ∃ fault, x = .error fault

@[simp]
theorem breaks_error (fault : Fault) : Breaks (.error fault : Except Fault α) := ⟨fault, rfl⟩

@[simp]
theorem not_breaks_ok (a : α) : ¬ Breaks (.ok a : Except Fault α) := nofun

theorem breaks_bind : Breaks (x >>= f) ↔ Breaks x ∨ ∃ a, x = .ok a ∧ Breaks (f a) := by
  cases x with
  | error fault => exact iff_of_true ⟨fault, rfl⟩ (.inl ⟨fault, rfl⟩)
  | ok a =>
    refine ⟨fun h => .inr ⟨a, rfl, h⟩, ?_⟩
    rintro (broken | ⟨_, ⟨⟩, h⟩)
    · exact absurd broken (not_breaks_ok a)
    · exact h

theorem breaks_bind_of {P : Prop} (rest : ∀ a, Breaks (f a) ↔ P) : Breaks (x >>= f) ↔ Breaks x ∨ P := by
  cases x with
  | error fault => exact iff_of_true ⟨fault, rfl⟩ (.inl ⟨fault, rfl⟩)
  | ok a => exact (rest a).trans (or_iff_right (not_breaks_ok a)).symm

@[simp]
theorem breaks_map {g : α → β} : Breaks (g <$> x) ↔ Breaks x := by
  cases x with
  | error fault => exact iff_of_true ⟨fault, rfl⟩ ⟨fault, rfl⟩
  | ok a => exact iff_of_false nofun nofun

def Fault.isNumeric (fault : Fault) : Bool := fault.isAmong [.value, .overflow, .division, .geometry]

def Numeric (x : Except Fault α) : Prop := ∀ fault, x = .error fault → fault.isNumeric = true

theorem numeric_ok (a : α) : Numeric (.ok a : Except Fault α) := nofun

theorem numeric_error {fault : Fault} (h : fault.isNumeric = true) : Numeric (.error fault : Except Fault α) := by
  rintro _ ⟨⟩
  exact h

theorem numeric_bind (hx : Numeric x) (hf : ∀ a, Numeric (f a)) : Numeric (x >>= f) := by
  cases x with
  | error fault => exact numeric_error (hx fault rfl)
  | ok a => exact hf a

theorem numeric_map (g : α → β) (hx : Numeric x) : Numeric (g <$> x) := by
  cases x with
  | error fault => exact numeric_error (hx fault rfl)
  | ok a => exact numeric_ok (g a)

theorem numeric_ite {p : Prop} [Decidable p] {y : Except Fault α} (hx : Numeric x) (hy : Numeric y) :
    Numeric (if p then x else y) := by
  split
  · exact hx
  · exact hy

theorem numeric_of_not_breaks (h : ¬ Breaks x) : Numeric x := fun fault broken => absurd ⟨fault, broken⟩ h

theorem Numeric.ne_storage (h : Numeric x) (reason : String) : x ≠ .error (.storage reason) :=
  fun storage => nomatch h _ storage

theorem numeric_wholeOfReal (w : Double.Whole) : Numeric (Value.wholeOfReal w) := by
  cases w with
  | value n => exact numeric_ok n
  | infinite => exact numeric_error rfl
  | undefined => exact numeric_error rfl

namespace Check

theorem breaks_wholeOf {number : Float} : Breaks (wholeOf number) ↔ Double.isFinite number = false := by
  unfold wholeOf Double.truncate Double.isFinite
  cases Double.decode number <;> simp [Value.wholeOfReal]

theorem breaks_ceilingOf {number : Float} : Breaks (ceilingOf number) ↔ Double.isFinite number = false := by
  unfold ceilingOf Double.ceiling Double.isFinite
  cases Double.decode number <;> simp [Value.wholeOfReal]

theorem breaks_floorOf {number : Float} : Breaks (floorOf number) ↔ Double.isFinite number = false := by
  unfold floorOf Double.floor Double.isFinite
  cases Double.decode number <;> simp [Value.wholeOfReal]

end Check

namespace Geodesy

theorem numeric_inDomain (value : Option α) : Numeric (inDomain value) := by
  cases value with
  | none => exact numeric_error rfl
  | some a => exact numeric_ok a

theorem numeric_sqrt (number : Float) : Numeric (sqrt number) := numeric_ite (numeric_error rfl) (numeric_ok _)

theorem numeric_distance (lat₁ lon₁ lat₂ lon₂ : Float) : Numeric (distance lat₁ lon₁ lat₂ lon₂) := by
  unfold distance
  refine numeric_bind (numeric_inDomain _) fun halfLat => ?_
  refine numeric_bind (numeric_inDomain _) fun cos₁ => ?_
  refine numeric_bind (numeric_inDomain _) fun cos₂ => ?_
  refine numeric_bind (numeric_inDomain _) fun halfLon => ?_
  refine numeric_bind (numeric_sqrt _) fun chord => ?_
  exact numeric_bind (numeric_sqrt _) fun rest => numeric_ok _

theorem numeric_project (lat lon refLat refLon : Float) : Numeric (project lat lon refLat refLon) :=
  numeric_bind (numeric_inDomain _) fun _ => numeric_ok _

end Geodesy

namespace Ring

theorem numeric_turn (a b p : Geodesy.Point) : Numeric (turn a b p) :=
  numeric_ite (numeric_ok _) (numeric_error rfl)

theorem numeric_meet (p a b : Geodesy.Point) : Numeric (meet p a b) := by
  unfold meet
  refine numeric_ite (numeric_ok _) (numeric_ite (numeric_ok _) (numeric_ite (numeric_ok _) ?_))
  exact numeric_ite (numeric_bind (numeric_turn a b p) fun side => numeric_ok _) (numeric_ok _)

theorem numeric_crossesOdd (p : Geodesy.Point) (isOdd : Bool) (segments : List (Geodesy.Point × Geodesy.Point)) :
    Numeric (crossesOdd p isOdd segments) := by
  induction segments generalizing isOdd with
  | nil => exact numeric_ok isOdd
  | cons segment rest ih =>
    refine numeric_bind (numeric_meet p segment.1 segment.2) fun meeting => ?_
    cases meeting with
    | touched => exact numeric_ok false
    | crossed => exact ih _
    | apart => exact ih _

theorem numeric_contains (ring : Ring) (p : Geodesy.Point) : Numeric (ring.contains p) :=
  numeric_ite (numeric_crossesOdd p false ring.segments) (numeric_ok false)

end Ring

namespace Area

theorem numeric_contains (lat lon : Float) (area : Area) : Numeric (area.contains lat lon) := by
  cases area with
  | circle circle => exact numeric_bind (Geodesy.numeric_distance _ _ _ _) fun distance => numeric_ok _
  | polygon polygon =>
    change Numeric (polygon.contains lat lon)
    unfold Polygon.contains
    split
    · exact numeric_ok false
    · refine numeric_ite ?_ (numeric_ok false)
      exact numeric_bind (Geodesy.numeric_project _ _ _ _) fun point => Ring.numeric_contains _ point

theorem numeric_anyContains (lat lon : Float) (areas : List Area) : Numeric (anyContains lat lon areas) := by
  induction areas with
  | nil => exact numeric_ok false
  | cons area rest ih =>
    refine numeric_bind (numeric_contains lat lon area) fun inside => ?_
    cases inside with
    | true => exact numeric_ok true
    | false => exact ih

end Area

theorem Geofence.numeric_check (item : Item) (fence : Geofence) : Numeric (fence.check item) := by
  cases fence with
  | unlimited => exact numeric_ok true
  | areas fence =>
    change Numeric (fence.check item)
    have excluded := Area.numeric_anyContains item.lat item.lon (fence.areas.filter (!·.inclusion))
    unfold AreaFence.check
    dsimp only
    refine numeric_ite (numeric_ok false) (numeric_ite ?_ (numeric_bind excluded fun outside => numeric_ok _))
    refine numeric_bind (Area.numeric_anyContains _ _ _) fun inside => numeric_ite (numeric_ok false) ?_
    exact numeric_bind excluded fun outside => numeric_ok _

end Preflight
