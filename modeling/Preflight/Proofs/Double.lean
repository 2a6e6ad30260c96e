import Preflight.Number.Double

namespace Preflight.Double

open Float.Model

theorem isNaN_unpack {spec : Format} (b : BitVec spec.numBits) :
    (UnpackedFloat.unpack spec b).isNaN = true ↔
      UnpackedFloat.unpackExponent b = -BitVec.ofNat spec.exponentBits 1 ∧
        UnpackedFloat.unpackMantissa b ≠ BitVec.ofNat spec.mantissaBitsWithoutImplicit 0 := by
  unfold UnpackedFloat.unpack
  extract_lets mantissa exponent
  by_cases he : exponent = -BitVec.ofNat spec.exponentBits 1
  · rw [if_pos he]
    by_cases hm : mantissa = BitVec.ofNat spec.mantissaBitsWithoutImplicit 0
    · rw [if_pos hm]
      exact iff_of_false Bool.false_ne_true fun h => h.2 hm
    · rw [if_neg hm]
      exact iff_of_true rfl ⟨he, hm⟩
  · rw [if_neg he]
    refine iff_of_false ?_ fun h => he h.1
    by_cases small : exponent = BitVec.ofNat spec.exponentBits 0
    · rw [if_pos small]
      by_cases hm : mantissa = BitVec.ofNat spec.mantissaBitsWithoutImplicit 0
      · rw [dif_pos hm]
        exact Bool.false_ne_true
      · rw [dif_neg hm]
        exact Bool.false_ne_true
    · rw [if_neg small]
      exact Bool.false_ne_true

theorem isNaN_pack (f : UnpackedFloat) : (pack f).isNaN = f.isNaN := by
  rw [Bool.eq_iff_iff]
  change (UnpackedFloat.unpack Format.binary64 (UnpackedFloat.pack Format.binary64 f)).isNaN = true ↔ _
  rw [isNaN_unpack]
  cases f with
  | notANumber => exact iff_of_true (by decide) rfl
  | infinity s => exact iff_of_false (by cases s <;> decide) Bool.false_ne_true
  | zero s => exact iff_of_false (by cases s <;> decide) Bool.false_ne_true
  | finite s m e hm =>
    refine iff_of_false ?_ Bool.false_ne_true
    unfold UnpackedFloat.pack
    dsimp only
    split
    · cases s <;> decide
    next hexponent =>
      split
      · rw [UnpackedFloat.unpackExponent_packComponents]
        -- The exponent stays below the greatest one, which is kept for infinities and undefined values.
        rintro ⟨he, -⟩
        have bound := congrArg BitVec.toNat he
        simp only [BitVec.toNat_ofNat] at bound
        simp at bound hexponent
        omega
      · simp

theorem isNaN_abs (x : Float) : x.abs.isNaN = x.isNaN := by
  change (pack x.toModel.unpack.abs).isNaN = x.toModel.unpack.isNaN
  rw [isNaN_pack]
  cases x.toModel.unpack <;> rfl

theorem undefined_sub (v : UnpackedFloat) : UnpackedFloat.sub Format.binary64 .notANumber v = .notANumber := by
  cases v <;> rfl

theorem sub_undefined (u : UnpackedFloat) : UnpackedFloat.sub Format.binary64 u .notANumber = .notANumber := by
  cases u <;> rfl

theorem number_of_sub {a b : Float} (h : (a - b).isNaN = false) : a.isNaN = false ∧ b.isNaN = false := by
  change (pack (UnpackedFloat.sub Format.binary64 a.toModel.unpack b.toModel.unpack)).isNaN = false at h
  change a.toModel.unpack.isNaN = false ∧ b.toModel.unpack.isNaN = false
  rw [isNaN_pack] at h
  constructor
  · cases ha : a.toModel.unpack with
    | notANumber =>
      rw [ha, undefined_sub] at h
      exact nomatch h
    | _ => rfl
  · cases hb : b.toModel.unpack with
    | notANumber =>
      rw [hb, sub_undefined] at h
      exact nomatch h
    | _ => rfl

theorem compare_magnitude (e e' : Int) (m m' : Nat) :
    (compare e' e).then (compare m' m) = ((compare e e').then (compare m m')).swap := by
  rw [Ordering.swap_then, ← Std.OrientedCmp.eq_swap, ← Std.OrientedCmp.eq_swap]

theorem compare_swap (u v : UnpackedFloat) : v.compare u = (u.compare v).map Ordering.swap := by
  rcases u with s | _ | s | ⟨s, m, e, _⟩ <;> rcases v with s' | _ | s' | ⟨s', m', e', _⟩
  case finite.finite =>
    have magnitude := compare_magnitude e e' m m'
    cases s <;> cases s'
    case positive.positive => exact congrArg some magnitude
    case negative.negative => exact congrArg (some ·.swap) magnitude
    all_goals rfl
  all_goals first | rfl | cases s <;> rfl | cases s' <;> rfl | cases s <;> cases s' <;> rfl

theorem compare_isSome (u v : UnpackedFloat) : (u.compare v).isSome = (!u.isNaN && !v.isNaN) := by
  rcases u with s | _ | s | ⟨s, m, e, _⟩ <;> rcases v with s' | _ | s' | ⟨s', m', e', _⟩
  all_goals first | rfl | cases s <;> rfl | cases s' <;> rfl | cases s <;> cases s' <;> rfl

theorem lt_iff {a b : Float} : a < b ↔ a.toModel.unpack.compare b.toModel.unpack = some .lt := by
  change decide (a.toModel < b.toModel) = true ↔ _
  rw [decide_eq_true_iff]
  change (a.toModel.unpack.compare b.toModel.unpack == some .lt) = true ↔ _
  exact beq_iff_eq

theorem le_iff {a b : Float} : a ≤ b ↔ ∃ o, a.toModel.unpack.compare b.toModel.unpack = some o ∧ o ≠ .gt := by
  change decide (a.toModel ≤ b.toModel) = true ↔ _
  rw [decide_eq_true_iff]
  change (a.toModel.unpack.compare b.toModel.unpack).any (·.isLE) = true ↔ _
  rcases a.toModel.unpack.compare b.toModel.unpack with _ | _ | _ | _ <;> simp [Ordering.isLE]

theorem le_iff_of_not_lt {a b : Float} (h : ¬ a < b) : b ≤ a ↔ a.isNaN = false ∧ b.isNaN = false := by
  have numbers := compare_isSome a.toModel.unpack b.toModel.unpack
  rw [lt_iff] at h
  rw [le_iff, compare_swap a.toModel.unpack]
  change _ ↔ a.toModel.unpack.isNaN = false ∧ b.toModel.unpack.isNaN = false
  rcases ho : a.toModel.unpack.compare b.toModel.unpack with _ | o
  · simpa [ho] using numbers
  · rw [ho] at h numbers
    cases o <;> simp_all

theorem number_of_le {a b : Float} (h : a ≤ b) : a.isNaN = false ∧ b.isNaN = false := by
  obtain ⟨o, ho, -⟩ := le_iff.mp h
  have numbers := compare_isSome a.toModel.unpack b.toModel.unpack
  change a.toModel.unpack.isNaN = false ∧ b.toModel.unpack.isNaN = false
  simpa [ho] using numbers.symm

theorem number_of_lt {a b : Float} (h : a < b) : a.isNaN = false ∧ b.isNaN = false := by
  have numbers := compare_isSome a.toModel.unpack b.toModel.unpack
  change a.toModel.unpack.isNaN = false ∧ b.toModel.unpack.isNaN = false
  simpa [lt_iff.mp h] using numbers.symm

theorem not_lt_of_le {a b : Float} (h : a ≤ b) : ¬ b < a := by
  obtain ⟨o, ho, hgt⟩ := le_iff.mp h
  rw [lt_iff, compare_swap a.toModel.unpack, ho]
  cases o <;> simp_all

def isMinus : UnpackedFloat.Sign → Bool
  | .negative => true
  | .positive => false

def partsOf : UnpackedFloat → Parts
  | .infinity s => .infinite (isMinus s)
  | .notANumber => .undefined
  | .zero s => .finite (isMinus s) 0 minExponent
  | .finite s m e _ => .finite (isMinus s) m e

theorem toNat_unpackExponent (x : Float) :
    (@UnpackedFloat.unpackExponent Format.binary64 x.toBits.toBitVec).toNat = x.toBits.toNat / twoTo 52 % twoTo 11 := by
  simp [UnpackedFloat.unpackExponent, twoTo, Nat.shiftRight_eq_div_pow]

theorem toNat_unpackMantissa (x : Float) :
    (@UnpackedFloat.unpackMantissa Format.binary64 x.toBits.toBitVec).toNat = x.toBits.toNat % twoTo 52 := by
  simp [UnpackedFloat.unpackMantissa, twoTo]

theorem toNat_unpackSign (x : Float) :
    (@UnpackedFloat.unpackSign Format.binary64 x.toBits.toBitVec).toNat = x.toBits.toNat / twoTo 63 := by
  have bound : x.toBits.toNat < 2 ^ 64 := x.toBits.toNat_lt
  change (BitVec.extractLsb' 63 1 x.toBits.toBitVec).toNat = _
  simp [twoTo, Nat.shiftRight_eq_div_pow]
  omega

theorem isMinus_unpackSign (x : Float) :
    isMinus (.ofBitVec (@UnpackedFloat.unpackSign Format.binary64 x.toBits.toBitVec)) =
      (x.toBits.toNat / twoTo 63 == 1) := by
  have sign := toNat_unpackSign x
  have bound : x.toBits.toNat < 2 ^ 64 := x.toBits.toNat_lt
  rw [← sign]
  generalize @UnpackedFloat.unpackSign Format.binary64 x.toBits.toBitVec = b
  revert b
  decide

theorem unpackExponent_eq_iff {x : Float} {b : BitVec 11} :
    @UnpackedFloat.unpackExponent Format.binary64 x.toBits.toBitVec = b ↔
      x.toBits.toNat / twoTo 52 % twoTo 11 = b.toNat := by
  rw [← toNat_unpackExponent, ← BitVec.toNat_inj]

theorem unpackMantissa_eq_iff {x : Float} {b : BitVec 52} :
    @UnpackedFloat.unpackMantissa Format.binary64 x.toBits.toBitVec = b ↔ x.toBits.toNat % twoTo 52 = b.toNat := by
  rw [← toNat_unpackMantissa, ← BitVec.toNat_inj]

theorem toNat_leading (b : BitVec 52) : (1#1 ++ b).toNat = twoTo 52 + b.toNat := by
  rw [BitVec.toNat_append, ← Nat.shiftLeft_add_eq_or_of_lt b.isLt]
  rfl

theorem decode_eq (x : Float) : decode x = partsOf x.toModel.unpack := by
  change _ = partsOf (UnpackedFloat.unpack Format.binary64 x.toBits.toBitVec)
  have exponent := toNat_unpackExponent x
  have fraction := toNat_unpackMantissa x
  have ones : _ ↔ x.toBits.toNat / twoTo 52 % twoTo 11 = 2047 := unpackExponent_eq_iff (b := -BitVec.ofNat 11 1)
  have zeros : _ ↔ x.toBits.toNat / twoTo 52 % twoTo 11 = 0 := unpackExponent_eq_iff (b := BitVec.ofNat 11 0)
  have empty : _ ↔ x.toBits.toNat % twoTo 52 = 0 := unpackMantissa_eq_iff (b := BitVec.ofNat 52 0)
  unfold decode UnpackedFloat.unpack
  dsimp only
  rw [← isMinus_unpackSign]
  by_cases he : x.toBits.toNat / twoTo 52 % twoTo 11 = 2047
  · rw [if_pos he, if_pos (ones.mpr he)]
    by_cases hm : x.toBits.toNat % twoTo 52 = 0
    · rw [if_pos hm, if_pos (empty.mpr hm)]
      rfl
    · rw [if_neg hm, if_neg (mt empty.mp hm)]
      rfl
  · rw [if_neg he, if_neg (mt ones.mp he)]
    by_cases small : x.toBits.toNat / twoTo 52 % twoTo 11 = 0
    · rw [if_pos small, if_pos (zeros.mpr small)]
      by_cases hm : x.toBits.toNat % twoTo 52 = 0
      · rw [dif_pos (empty.mpr hm), hm]
        rfl
      · rw [dif_neg (mt empty.mp hm)]
        refine (Parts.finite.injEq ..).mpr ⟨rfl, fraction.symm, ?_⟩
        rw [exponent, small]
        rfl
    · rw [if_neg small, if_neg (mt zeros.mp small), ← exponent]
      exact (Parts.finite.injEq ..).mpr ⟨rfl, ((toNat_leading _).trans (congrArg _ fraction)).symm, rfl⟩

theorem decode_undefined_iff (x : Float) : decode x = .undefined ↔ x.isNaN = true := by
  rw [decode_eq]
  change _ ↔ x.toModel.unpack.isNaN = true
  cases x.toModel.unpack with
  | notANumber => exact iff_of_true rfl rfl
  | _ => exact iff_of_false nofun nofun

theorem isFinite_of_lt {x y : Float} (below : x < y) (positive : ¬ x ≤ 0.0) : isFinite x = true := by
  have zero : (0.0 : Float).toModel.unpack = .zero .positive := by rfl
  rw [le_iff, zero] at positive
  have compared := lt_iff.mp below
  rw [isFinite, decode_eq]
  rcases hx : x.toModel.unpack with (_ | _) | _ | s | ⟨s, m, e, _⟩
  · exact absurd ⟨.lt, by rw [hx]; rfl, nofun⟩ positive
  · rw [hx] at compared
    rcases hy : y.toModel.unpack with (_ | _) | _ | _ | _ <;> rw [hy] at compared <;> exact nomatch compared
  · rw [hx] at compared
    exact nomatch compared
  · rfl
  · rfl

theorem compareWhole_eq_none (x : Float) (n : Int) : compareWhole x n = none ↔ x.isNaN = true := by
  rw [← decode_undefined_iff, compareWhole]
  cases decode x <;> simp

end Preflight.Double
