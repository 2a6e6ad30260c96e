import Preflight.Proofs.Double

namespace Preflight.Double

open Float.Model

variable {x y : Float} {u v : UnpackedFloat}

inductive Equal : UnpackedFloat → UnpackedFloat → Prop
  | refl (u : UnpackedFloat) : Equal u u
  | zero (s s' : UnpackedFloat.Sign) : Equal (.zero s) (.zero s')

theorem equal_of_compare (h : u.compare v = some .eq) : Equal u v := by
  rcases u with s | _ | s | ⟨s, m, e, hm⟩ <;> rcases v with s' | _ | s' | ⟨s', m', e', hm'⟩
  case zero.zero => exact .zero s s'
  case infinity.infinity =>
    cases s <;> cases s'
    case negative.negative => exact .refl _
    case positive.positive => exact .refl _
    all_goals cases h
  case finite.finite =>
    have same : (compare e e').then (compare m m') = .eq → m = m' ∧ e = e' := by
      intro compared
      rw [Ordering.then_eq_eq, Int.compare_eq_eq, Nat.compare_eq_eq] at compared
      exact ⟨compared.2, compared.1⟩
    cases s <;> cases s'
    case negative.negative =>
      obtain ⟨rfl, rfl⟩ := same (Ordering.swap_eq_eq.mp (Option.some.inj h))
      exact .refl _
    case positive.positive =>
      obtain ⟨rfl, rfl⟩ := same (Option.some.inj h)
      exact .refl _
    all_goals cases h
  all_goals first | cases h | cases s <;> cases h | cases s' <;> cases h

theorem compare_of_equal (h : Equal u v) (w : UnpackedFloat) : u.compare w = v.compare w := by
  cases h with
  | refl => rfl
  | zero s s' => rcases w with s | _ | s | ⟨s, m, e, hm⟩ <;> first | rfl | cases s <;> rfl

theorem pack_zero (s : UnpackedFloat.Sign) : (pack (.zero s)).unpack.abs = .zero .positive := by
  cases s <;> rfl

theorem abs_sub_of_equal (h : Equal x.toModel.unpack y.toModel.unpack) (a : Float) : (a - x).abs = (a - y).abs := by
  change Float.ofModel (pack (pack (UnpackedFloat.sub _ a.toModel.unpack x.toModel.unpack)).unpack.abs) =
    Float.ofModel (pack (pack (UnpackedFloat.sub _ a.toModel.unpack y.toModel.unpack)).unpack.abs)
  refine congrArg (fun u => Float.ofModel (pack u)) ?_
  generalize x.toModel.unpack = u at h
  generalize y.toModel.unpack = v at h
  cases h with
  | refl => rfl
  | zero s s' =>
    have difference (sign s : UnpackedFloat.Sign) :
        ∃ t, UnpackedFloat.sub Format.binary64 (.zero sign) (.zero s) = .zero t := by
      cases sign <;> cases s <;> exact ⟨_, rfl⟩
    cases a.toModel.unpack with
    | zero sign =>
      obtain ⟨t, ht⟩ := difference sign s
      obtain ⟨t', ht'⟩ := difference sign s'
      rw [ht, ht', pack_zero, pack_zero]
    | _ => rfl

theorem abs_mul_of_equal (h : Equal x.toModel.unpack y.toModel.unpack) (a : Float) : (a * x).abs = (a * y).abs := by
  change Float.ofModel (pack (pack (UnpackedFloat.mul _ a.toModel.unpack x.toModel.unpack)).unpack.abs) =
    Float.ofModel (pack (pack (UnpackedFloat.mul _ a.toModel.unpack y.toModel.unpack)).unpack.abs)
  refine congrArg (fun u => Float.ofModel (pack u)) ?_
  generalize x.toModel.unpack = u at h
  generalize y.toModel.unpack = v at h
  cases h with
  | refl => rfl
  | zero s s' =>
    have product (sign : UnpackedFloat.Sign) : (pack (.zero (sign * s))).unpack.abs =
        (pack (.zero (sign * s'))).unpack.abs := (pack_zero _).trans (pack_zero _).symm
    cases a.toModel.unpack with
    | zero sign => exact product sign
    | finite sign m e hm => exact product sign
    | _ => rfl

theorem isInfinite_of_equal (h : Equal x.toModel.unpack y.toModel.unpack) : isInfinite x = isInfinite y := by
  rw [isInfinite, isInfinite, decode_eq, decode_eq]
  generalize x.toModel.unpack = u at h
  generalize y.toModel.unpack = v at h
  cases h <;> rfl

theorem beq_iff : (x == y) = true ↔ x.toModel.unpack.compare y.toModel.unpack = some .eq := by
  change (x.toModel.unpack.compare y.toModel.unpack == some .eq) = true ↔ _
  exact beq_iff_eq

theorem beq_of_equal (h : Equal x.toModel.unpack y.toModel.unpack) (a : Float) : (x == a) = (y == a) := by
  rw [Bool.eq_iff_iff, beq_iff, beq_iff, compare_of_equal h]

theorem lt_of_equal (h : Equal x.toModel.unpack y.toModel.unpack) (a : Float) : x < a ↔ y < a := by
  rw [lt_iff, lt_iff, compare_of_equal h]

theorem equal_of_beq (h : (x == y) = true) : Equal x.toModel.unpack y.toModel.unpack :=
  equal_of_compare (beq_iff.mp h)

theorem compare_self (u : UnpackedFloat) (hu : u.isNaN = false) : u.compare u = some .eq := by
  rcases u with s | _ | s | ⟨s, m, e, hm⟩
  · cases s <;> rfl
  · exact nomatch hu
  · rfl
  · have same : (compare e e).then (compare m m) = .eq := by simp
    cases s with
    | negative => exact congrArg (some ·.swap) same
    | positive => exact congrArg some same

theorem not_lt_of_bne (h : (x != x) = true) (a : Float) : ¬ x < a := by
  rw [lt_iff]
  cases hx : x.toModel.unpack.isNaN with
  | true =>
    cases hu : x.toModel.unpack with
    | notANumber => nofun
    | _ => exact nomatch hu ▸ hx
  | false =>
    have equal : (x == x) = true := beq_iff.mpr (compare_self x.toModel.unpack hx)
    rw [bne, equal] at h
    exact nomatch h

end Preflight.Double
