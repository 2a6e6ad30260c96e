import Preflight.Proofs.Double.Differences

namespace Preflight.Double

open Float.Model

variable {spec : Format} {u u' v v' : UnpackedFloat} {x x' y y' : Float}

theorem unpack_pack_zero (s : UnpackedFloat.Sign) : (pack (.zero s)).unpack = .zero s := by cases s <;> rfl

namespace Equal

theorem pack (h : Equal u v) : Equal (Float.Model.pack u).unpack (Float.Model.pack v).unpack := by
  cases h with
  | refl => exact .refl _
  | zero s s' =>
    rw [unpack_pack_zero, unpack_pack_zero]
    exact .zero s s'

theorem neg (h : Equal u v) : Equal u.neg v.neg := by
  cases h with
  | refl => exact .refl _
  | zero s s' => exact .zero _ _

theorem abs (h : Equal u v) : Equal u.abs v.abs := by
  cases h with
  | refl => exact .refl _
  | zero s s' => exact .refl _

theorem operate {f : UnpackedFloat → UnpackedFloat → UnpackedFloat}
    (left : ∀ s s' v, Equal (f (.zero s) v) (f (.zero s') v))
    (right : ∀ u s s', Equal (f u (.zero s)) (f u (.zero s'))) (h : Equal u u') (h' : Equal v v') :
    Equal (f u v) (f u' v') := by
  have first : Equal (f u v) (f u' v) := by
    cases h with
    | refl => exact .refl _
    | zero s s' => exact left s s' v
  have second : Equal (f u' v) (f u' v') := by
    cases h' with
    | refl => exact .refl _
    | zero s s' => exact right u' s s'
  exact first.trans second

theorem add (h : Equal u u') (h' : Equal v v') :
    Equal (UnpackedFloat.add spec u v) (UnpackedFloat.add spec u' v') := by
  refine operate (fun s s' v => ?_) (fun u s s' => ?_) h h'
  · cases v with
    | zero t => cases s <;> cases s' <;> cases t <;> exact .zero _ _
    | _ => exact .refl _
  · cases u with
    | zero t => cases s <;> cases s' <;> cases t <;> exact .zero _ _
    | _ => exact .refl _

theorem sub (h : Equal u u') (h' : Equal v v') :
    Equal (UnpackedFloat.sub spec u v) (UnpackedFloat.sub spec u' v') := by
  refine operate (fun s s' v => ?_) (fun u s s' => ?_) h h'
  · cases v with
    | zero t => cases s <;> cases s' <;> cases t <;> exact .zero _ _
    | _ => exact .refl _
  · cases u with
    | zero t => cases s <;> cases s' <;> cases t <;> exact .zero _ _
    | _ => exact .refl _

theorem mul (h : Equal u u') (h' : Equal v v') :
    Equal (UnpackedFloat.mul spec u v) (UnpackedFloat.mul spec u' v') := by
  refine operate (fun s s' v => ?_) (fun u s s' => ?_) h h'
  · cases v with
    | zero | finite => exact .zero _ _
    | _ => exact .refl _
  · cases u with
    | zero | finite => exact .zero _ _
    | _ => exact .refl _

theorem compare (h : Equal u u') (h' : Equal v v') : u.compare v = u'.compare v' := by
  have swapped : u'.compare v = u'.compare v' := by
    rw [compare_swap v u', compare_swap v' u', compare_of_equal h']
  rw [compare_of_equal h, swapped]

end Equal

def Alike (x y : Float) : Prop := Equal x.toModel.unpack y.toModel.unpack

namespace Alike

theorem refl (x : Float) : Alike x x := Equal.refl _

theorem neg (h : Alike x x') : Alike (-x) (-x') := Equal.pack (Equal.neg h)

theorem abs (h : Alike x x') : Alike x.abs x'.abs := Equal.pack (Equal.abs h)

theorem add (h : Alike x x') (h' : Alike y y') : Alike (x + y) (x' + y') := Equal.pack (Equal.add h h')

theorem sub (h : Alike x x') (h' : Alike y y') : Alike (x - y) (x' - y') := Equal.pack (Equal.sub h h')

theorem mul (h : Alike x x') (h' : Alike y y') : Alike (x * y) (x' * y') := Equal.pack (Equal.mul h h')

theorem lt_iff (h : Alike x x') (h' : Alike y y') : x < y ↔ x' < y' := by
  rw [Double.lt_iff, Double.lt_iff, Equal.compare h h']

theorem le_iff (h : Alike x x') (h' : Alike y y') : x ≤ y ↔ x' ≤ y' := by
  rw [Double.le_iff, Double.le_iff, Equal.compare h h']

theorem beq_eq (h : Alike x x') (h' : Alike y y') : (x == y) = (x' == y') := by
  rw [Bool.eq_iff_iff, beq_iff, beq_iff, Equal.compare h h']

theorem isFinite_eq (h : Alike x x') : isFinite x = isFinite x' := by
  rw [isFinite, isFinite, decode_eq, decode_eq]
  unfold Alike at h
  generalize x.toModel.unpack = u at h
  generalize x'.toModel.unpack = v at h
  cases h <;> rfl

end Alike

theorem alike_sub_of_units (hx : isFinite x = true) (hy : isFinite y = true) (hx' : isFinite x' = true)
    (hy' : isFinite y' = true) (h : units x - units y = units x' - units y') : Alike (x - y) (x' - y') := by
  have rounded : Equal (UnpackedFloat.sub Format.binary64 x.toModel.unpack y.toModel.unpack) _ :=
    sub_equal (isFinite_iff.mp hx) (isFinite_iff.mp hy) (isCanonical_unpack x) (isCanonical_unpack y)
  have rounded' : Equal (UnpackedFloat.sub Format.binary64 x'.toModel.unpack y'.toModel.unpack) _ :=
    sub_equal (isFinite_iff.mp hx') (isFinite_iff.mp hy') (isCanonical_unpack x') (isCanonical_unpack y')
  have same : unitsOf x.toModel.unpack - unitsOf y.toModel.unpack =
      unitsOf x'.toModel.unpack - unitsOf y'.toModel.unpack := h
  rw [same] at rounded
  exact Equal.pack (rounded.trans rounded'.symm)

end Preflight.Double
