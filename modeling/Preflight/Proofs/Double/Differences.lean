import Mathlib.Tactic.Ring
import Preflight.Proofs.Double.Same
import Preflight.Proofs.Double.Units

namespace Preflight.Double

open Float.Model

variable {spec : Format} {m : Nat} {e : Int} {s : UnpackedFloat.Sign} {u v w : UnpackedFloat}

theorem repeat_add {α : Type} (f : α → α) (j k : Nat) (a : α) : (j + k).repeat f a = j.repeat f (k.repeat f a) := by
  induction j with
  | zero => rw [Nat.zero_add, Nat.repeat]
  | succ j ih => rw [Nat.succ_add, Nat.repeat, ih, Nat.repeat]

def exactly (m : Nat) : UnpackedFloat.ExtendedMantissa := ⟨m, false, false⟩

theorem shift_power (m k : Nat) : exactly (m * 2 ^ k) >>> k = exactly m := by
  induction k generalizing m with
  | zero => rw [Nat.pow_zero, Nat.mul_one]; rfl
  | succ k ih =>
    have last : UnpackedFloat.ExtendedMantissa.shiftRightOne (exactly (m * 2)) = exactly m := by
      simp [UnpackedFloat.ExtendedMantissa.shiftRightOne, exactly]
    have shifted : UnpackedFloat.ExtendedMantissa.shiftRightOne (exactly (m * 2 * 2 ^ k) >>> k) = exactly m := by
      rw [ih, last]
    rwa [Nat.mul_assoc, Nat.mul_comm 2, ← Nat.pow_succ] at shifted

theorem shift_scaled (m j k : Nat) : exactly (m * 2 ^ k) >>> (j + k) = exactly m >>> j := by
  change (j + k).repeat _ _ = _
  rw [repeat_add]
  exact congrArg (j.repeat _) (shift_power m k)

theorem log2_scaled (hm : 0 < m) (k : Nat) : (m * 2 ^ k).log2 = m.log2 + k := by
  induction k with
  | zero => rw [Nat.pow_zero, Nat.mul_one, Nat.add_zero]
  | succ k ih =>
    have positive : m * 2 ^ k ≠ 0 := (Nat.mul_pos hm (Nat.two_pow_pos k)).ne'
    rw [Nat.pow_succ, ← Nat.mul_assoc, Nat.mul_comm _ 2, Nat.log2_two_mul positive, ih, Nat.add_assoc]

theorem totalExponent_scaled (hm : 0 < m) (k : Nat) (e : Int) :
    totalExponent (m * 2 ^ k) e = totalExponent m (e + k) := by
  rw [totalExponent, totalExponent, log2_scaled hm]
  push_cast
  ring

theorem shiftToTargetExponent_scaled (hm : 0 < m) (k : Nat)
    (short : e + k ≤ spec.targetExponent (totalExponent m (e + k))) :
    UnpackedFloat.shiftToTargetExponent spec (m * 2 ^ k) e .exact =
      UnpackedFloat.shiftToTargetExponent spec m (e + k) .exact := by
  unfold UnpackedFloat.shiftToTargetExponent
  rw [totalExponent_scaled hm]
  generalize spec.targetExponent (totalExponent m (e + k)) = target at short
  obtain ⟨j, rfl⟩ : ∃ j : Nat, target = e + k + j := ⟨(target - (e + k)).toNat, by omega⟩
  have far : (e + k + j - e).toNat = j + k := by omega
  have near : (e + k + j - (e + k)).toNat = j := by omega
  unfold UnpackedFloat.shiftToExponent
  dsimp only
  rw [far, near]
  refine Prod.ext (shift_scaled m j k) ?_
  change e + ((j + k : Nat) : Int) = e + k + (j : Int)
  push_cast
  ring

theorem roundWithAccuracy_scaled (hm : 0 < m) (k : Nat)
    (short : e + k ≤ spec.targetExponent (totalExponent m (e + k))) :
    UnpackedFloat.roundWithAccuracy spec s (m * 2 ^ k) e .exact =
      UnpackedFloat.roundWithAccuracy spec s m (e + k) .exact := by
  unfold UnpackedFloat.roundWithAccuracy
  rw [shiftToTargetExponent_scaled hm k short]

theorem round_scaled (hm : 0 < m) (k : Nat) (e : Int) :
    UnpackedFloat.round spec s (m * 2 ^ k) e = UnpackedFloat.round spec s m (e + k) := by
  unfold UnpackedFloat.round
  rw [totalExponent_scaled hm]
  generalize htarget : spec.targetExponent (totalExponent m (e + k)) = target
  unfold UnpackedFloat.decreaseExponent
  simp only [Nat.shiftLeft_eq]
  -- The mantissas are shifted to the left down to the target exponent, or to the right up to it: both to the left if it
  -- is below both exponents, both to the right if it is above them, and one each way if it is between.
  rcases le_total target e with small | large
  · obtain ⟨j, rfl⟩ : ∃ j : Nat, e = target + j := ⟨(e - target).toNat, by omega⟩
    have near : (target + j - target).toNat = j := by omega
    have far : (target + j + k - target).toNat = k + j := by omega
    rw [near, far, Nat.mul_assoc, ← Nat.pow_add]
    congr 1
    push_cast
    ring
  · have none : (e - target).toNat = 0 := by omega
    rw [none, Nat.pow_zero, Nat.mul_one, Int.ofNat_zero, Int.sub_zero]
    rcases le_total target (e + k) with reached | short
    · obtain ⟨j, hj⟩ : ∃ j : Nat, e + k = target + j := ⟨(e + k - target).toNat, by omega⟩
      obtain ⟨i, rfl⟩ : ∃ i : Nat, target = e + i := ⟨(target - e).toNat, by omega⟩
      obtain rfl : k = j + i := by omega
      have far : (e + ((j + i : Nat) : Int) - (e + i)).toNat = j := by omega
      have exponent : e + ((j + i : Nat) : Int) - (j : Nat) = e + i := by omega
      have positive : 0 < m * 2 ^ j := Nat.mul_pos hm (Nat.two_pow_pos j)
      rw [far, exponent, Nat.pow_add, ← Nat.mul_assoc]
      apply roundWithAccuracy_scaled positive
      have sum : e + (i : Int) + (j : Int) = e + ((j + i : Nat) : Int) := by push_cast; ring
      rw [totalExponent_scaled hm, sum, htarget]
    · have far : (e + k - target).toNat = 0 := by omega
      rw [far, Nat.pow_zero, Nat.mul_one, Int.ofNat_zero, Int.sub_zero]
      exact roundWithAccuracy_scaled hm k (htarget ▸ short)

theorem normalize_apply (hm : 0 < m) (s zero : UnpackedFloat.Sign) (e : Int) :
    UnpackedFloat.normalize spec (s.apply m) e zero = UnpackedFloat.round spec s m e := by
  unfold UnpackedFloat.normalize
  cases s with
  | negative =>
    change (match compare (-(m : Int)) 0 with
      | .lt => UnpackedFloat.round spec .negative (- -(m : Int)).toNat e
      | .eq => _
      | .gt => _) = _
    rw [Int.compare_eq_lt.mpr (show -(m : Int) < 0 by omega), Int.neg_neg, Int.toNat_natCast]
  | positive =>
    change (match compare (m : Int) 0 with
      | .lt => _
      | .eq => _
      | .gt => UnpackedFloat.round spec .positive (m : Int).toNat e) = _
    rw [Int.compare_eq_gt.mpr (show (0 : Int) < m by omega), Int.toNat_natCast]

theorem apply_mul (s : UnpackedFloat.Sign) (n k : Int) : s.apply (n * k) = s.apply n * k := by
  cases s with
  | negative => exact (Int.neg_mul n k).symm
  | positive => rfl

theorem eq_zero_or_apply (n : Int) : n = 0 ∨ ∃ (s : UnpackedFloat.Sign) (m : Nat), 0 < m ∧ n = s.apply m := by
  rcases lt_trichotomy n 0 with negative | rfl | positive
  · refine .inr ⟨.negative, n.natAbs, by omega, ?_⟩
    change n = -(n.natAbs : Int)
    omega
  · exact .inl rfl
  · refine .inr ⟨.positive, n.natAbs, by omega, ?_⟩
    change n = (n.natAbs : Int)
    omega

theorem normalize_scaled (n : Int) (k : Nat) (e : Int) (zero : UnpackedFloat.Sign) :
    UnpackedFloat.normalize spec (n * 2 ^ k) e zero = UnpackedFloat.normalize spec n (e + k) zero := by
  rcases eq_zero_or_apply n with rfl | ⟨s, m, hm, rfl⟩
  · rw [Int.zero_mul]
    rfl
  · have scaled : s.apply (m : Int) * 2 ^ k = s.apply ((m * 2 ^ k : Nat) : Int) := by
      rw [← apply_mul, Int.natCast_mul]
      norm_cast
    rw [scaled, normalize_apply (Nat.mul_pos hm (Nat.two_pow_pos k)), normalize_apply hm, round_scaled hm]

theorem targetExponent_canonical (h : Canonical m e) (hm : 0 < m) :
    Format.binary64.targetExponent (totalExponent m e) = e := by
  have target : Format.binary64.targetExponent (totalExponent m e) = max (totalExponent m e - 53) (-1074) := rfl
  have least : -1074 ≤ e := h.least
  have below : m.log2 < 53 := (Nat.log2_lt hm.ne').mpr h.below
  rw [target, totalExponent]
  rcases h.full with full | atLeast
  · have above : 52 ≤ m.log2 := (Nat.le_log2 hm.ne').mpr full
    omega
  · have atLeast : e = -1074 := atLeast
    omega

theorem shift_canonical (h : Canonical m e) (hm : 0 < m) :
    UnpackedFloat.shiftToTargetExponent Format.binary64 m e .exact = (exactly m, e) := by
  unfold UnpackedFloat.shiftToTargetExponent UnpackedFloat.shiftToExponent
  dsimp only
  rw [targetExponent_canonical h hm, Int.sub_self, Int.toNat_zero, Int.ofNat_zero, Int.add_zero]
  rfl

theorem round_canonical (h : Canonical m e) (hm : 0 < m) :
    UnpackedFloat.round Format.binary64 s m e = .finite s m e hm := by
  unfold UnpackedFloat.round
  dsimp only
  rw [targetExponent_canonical h hm]
  have same : UnpackedFloat.decreaseExponent m e e = (m, e) := by
    simp [UnpackedFloat.decreaseExponent]
  rw [same]
  unfold UnpackedFloat.roundWithAccuracy
  have rounded : (exactly m).roundedMantissa = m := rfl
  rw [shift_canonical h hm]
  dsimp only
  rw [rounded, shift_canonical h hm]
  exact dif_neg hm.ne'

def unitsOf : UnpackedFloat → Int
  | .finite s m e _ => s.apply (steps m e)
  | _ => 0

def units (x : Float) : Int := unitsOf x.toModel.unpack

def IsFinite : UnpackedFloat → Prop
  | .zero _ | .finite .. => True
  | _ => False

theorem isFinite_iff {x : Float} : isFinite x = true ↔ IsFinite x.toModel.unpack := by
  rw [isFinite, decode_eq]
  cases x.toModel.unpack with
  | zero | finite => exact iff_of_true rfl trivial
  | infinity | notANumber => exact iff_of_false Bool.false_ne_true not_false

namespace Equal

theorem symm (h : Equal u v) : Equal v u := by
  cases h with
  | refl => exact .refl u
  | zero s s' => exact .zero s' s

theorem trans (h : Equal u v) (h' : Equal v w) : Equal u w := by
  cases h with
  | refl => exact h'
  | zero s s' =>
    cases h' with
    | refl => exact .zero s s'
    | zero _ s'' => exact .zero s s''

end Equal

theorem normalize_units (h : Canonical m e) (hm : 0 < m) (s zero : UnpackedFloat.Sign) :
    UnpackedFloat.normalize Format.binary64 (s.apply (steps m e)) minExponent zero = .finite s m e hm := by
  obtain ⟨k, rfl⟩ : ∃ k : Nat, e = minExponent + k := ⟨(e - minExponent).toNat, by have := h.least; omega⟩
  have shift : (minExponent + k - minExponent).toNat = k := by omega
  have scale : steps m (minExponent + k) = m * 2 ^ k := by
    rw [steps, shift]
    rfl
  have scaled : s.apply (steps m (minExponent + k)) = s.apply m * 2 ^ k := by
    rw [scale, ← apply_mul]
    norm_cast
  rw [scaled, normalize_scaled, normalize_apply hm, round_canonical h hm]

theorem decrease_units {least : Int} (hleast : least ≤ e) (above : minExponent ≤ least) (m : Nat)
    (s : UnpackedFloat.Sign) :
    s.apply (UnpackedFloat.decreaseExponent m e least).1 * 2 ^ (least - minExponent).toNat =
      s.apply (steps m e) := by
  have exponents : (e - minExponent).toNat = (e - least).toNat + (least - minExponent).toNat := by omega
  have split : steps m e = (UnpackedFloat.decreaseExponent m e least).1 * 2 ^ (least - minExponent).toNat := by
    rw [steps, exponents, UnpackedFloat.decreaseExponent, Nat.shiftLeft_eq, Nat.mul_assoc, ← Nat.pow_add]
    rfl
  rw [split, ← apply_mul, Int.natCast_mul]
  norm_cast

theorem sub_equal (hu : IsFinite u) (hv : IsFinite v) (cu : IsCanonical u) (cv : IsCanonical v) :
    Equal (UnpackedFloat.sub Format.binary64 u v)
      (UnpackedFloat.normalize Format.binary64 (unitsOf u - unitsOf v) minExponent .positive) := by
  rcases u with s | _ | s | ⟨s, m, e, hm⟩
  case zero =>
    rcases v with s' | _ | s' | ⟨s', m', e', hm'⟩
    case zero => cases s <;> cases s' <;> exact .zero _ _
    case finite =>
      have negated : unitsOf (.zero s) - unitsOf (.finite s' m' e' hm') = (-s').apply (steps m' e') := by
        change 0 - s'.apply (steps m' e') = (-s').apply (steps m' e')
        cases s' <;> simp [UnpackedFloat.Sign.apply]
      rw [negated, normalize_units (cv s' m' e' hm' rfl) hm']
      exact .refl _
    all_goals exact hv.elim
  case finite =>
    rcases v with s' | _ | s' | ⟨s', m', e', hm'⟩
    case zero =>
      have kept : unitsOf (.finite s m e hm) - unitsOf (.zero s') = s.apply (steps m e) := Int.sub_zero _
      rw [kept, normalize_units (cu s m e hm rfl) hm]
      exact .refl _
    case finite =>
      have above : minExponent ≤ min e e' := le_min (cu s m e hm rfl).least (cv s' m' e' hm' rfl).least
      have exponent : minExponent + ((min e e' - minExponent).toNat : Int) = min e e' := by omega
      change Equal _ (UnpackedFloat.normalize _ (s.apply (steps m e) - s'.apply (steps m' e')) _ _)
      rw [← decrease_units (min_le_left e e') above m s, ← decrease_units (min_le_right e e') above m' s', ← Int.sub_mul,
        normalize_scaled, exponent]
      exact .refl _
    all_goals exact hv.elim
  all_goals exact hu.elim

end Preflight.Double
