import Mathlib.Data.Int.ConditionallyCompleteOrder
import Mathlib.Order.ConditionallyCompleteLattice.Basic
import Mathlib.Order.WithBot
import Preflight.Proofs.Double

/-!
Doubles and whole numbers on one scale. Every double that is a number is a multiple of the smallest positive one, or
infinite; the multiples order the doubles, and whole numbers among them.
-/
namespace Preflight.Double

open Float.Model

variable {m m' : Nat} {e e' : Int} {s s' : UnpackedFloat.Sign}

structure Canonical (m : Nat) (e : Int) : Prop where
  below : m < twoTo 53
  least : minExponent ≤ e
  full : twoTo 52 ≤ m ∨ e = minExponent

theorem canonical_of_decode {x : Float} {negative : Bool} (h : decode x = .finite negative m e) : Canonical m e := by
  have fraction : x.toBits.toNat % twoTo 52 < twoTo 52 := Nat.mod_lt _ (twoTo_pos 52)
  have double : twoTo 53 = twoTo 52 * 2 := twoTo_succ 52
  unfold decode at h
  dsimp only at h
  split at h
  next => split at h <;> exact nomatch h
  next =>
    split at h
    next =>
      simp only [Parts.finite.injEq] at h
      obtain ⟨-, rfl, rfl⟩ := h
      exact ⟨by omega, le_refl _, .inr rfl⟩
    next hexponent =>
      simp only [Parts.finite.injEq] at h
      obtain ⟨-, rfl, rfl⟩ := h
      refine ⟨by omega, ?_, .inl (by omega)⟩
      rw [minExponent]
      omega

def steps (m : Nat) (e : Int) : Nat := m * twoTo (e - minExponent).toNat

theorem steps_lt_of_exponent (h : Canonical m e) (h' : Canonical m' e') (he : e < e') : steps m e < steps m' e' := by
  have full : twoTo 52 ≤ m' := by
    rcases h'.full with full | least
    · exact full
    · have hleast := h.least
      omega
  obtain ⟨k, hk⟩ : ∃ k, (e' - minExponent).toNat = (e - minExponent).toNat + 1 + k := by
    have hleast := h.least
    exact ⟨(e' - e - 1).toNat, by omega⟩
  calc steps m e
      < twoTo 53 * twoTo (e - minExponent).toNat := Nat.mul_lt_mul_of_pos_right h.below (twoTo_pos _)
    _ = twoTo 52 * twoTo ((e - minExponent).toNat + 1) := by
        rw [twoTo_succ 52, twoTo_succ (e - minExponent).toNat, Nat.mul_assoc, Nat.mul_comm 2]
    _ ≤ twoTo 52 * twoTo (e' - minExponent).toNat := by
        rw [hk]
        exact Nat.mul_le_mul_left _ (Nat.pow_le_pow_right Nat.two_pos (Nat.le_add_right _ k))
    _ ≤ steps m' e' := Nat.mul_le_mul_right _ full

theorem steps_lt_iff (h : Canonical m e) (h' : Canonical m' e') :
    steps m e < steps m' e' ↔ e < e' ∨ e = e' ∧ m < m' := by
  rcases lt_trichotomy e e' with he | rfl | he
  · exact iff_of_true (steps_lt_of_exponent h h' he) (.inl he)
  · have scale : steps m e < steps m' e ↔ m < m' := Nat.mul_lt_mul_right (twoTo_pos _)
    rw [scale]
    simp
  · have later := steps_lt_of_exponent h' h he
    exact iff_of_false (by omega) (by omega)

/-- A place on the scale of the doubles: a number of steps, or beyond all of them. -/
abbrev Place := WithBot (WithTop Int)

namespace Place

def of (n : Int) : Place := ((n : WithTop Int) : WithBot (WithTop Int))

theorem of_lt_of {n k : Int} : of n < of k ↔ n < k := by
  rw [of, of, WithBot.coe_lt_coe, WithTop.coe_lt_coe]

theorem of_lt_top (n : Int) : of n < ⊤ := WithBot.coe_lt_coe.mpr (WithTop.coe_lt_top n)

theorem bot_lt_of (n : Int) : ⊥ < of n := WithBot.bot_lt_coe _

end Place

def Parts.place : Parts → Place
  | .finite negative m e => .of (signed negative (steps m e))
  | .infinite negative => if negative then ⊥ else ⊤
  | .undefined => ⊥

def place (x : Float) : Place := (decode x).place

def placeOf (n : Int) : Place := .of (n * twoTo 1074)

theorem compare_steps (h : Canonical m e) (h' : Canonical m' e') :
    (compare e e').then (compare m m') = .lt ↔ steps m e < steps m' e' := by
  rw [steps_lt_iff h h', Ordering.then_eq_lt, Int.compare_eq_lt, Int.compare_eq_eq, Nat.compare_eq_lt]

def IsCanonical (u : UnpackedFloat) : Prop := ∀ s m e hm, u = .finite s m e hm → Canonical m e

theorem isCanonical_unpack (x : Float) : IsCanonical x.toModel.unpack := by
  intro s m e hm hx
  have hdecode : decode x = .finite (isMinus s) m e := by
    rw [decode_eq, hx]
    rfl
  exact canonical_of_decode hdecode

theorem place_zero (s : UnpackedFloat.Sign) : (partsOf (.zero s)).place = .of 0 := by
  have none : steps 0 minExponent = 0 := Nat.zero_mul _
  change Place.of (signed (isMinus s) (steps 0 minExponent)) = _
  rw [none]
  cases s <;> rfl

theorem place_finite (s : UnpackedFloat.Sign) (hm : 0 < m) :
    (partsOf (.finite s m e hm)).place = .of (s.apply (steps m e)) := by
  cases s <;> rfl

theorem compare_infinite (s s' : UnpackedFloat.Sign) :
    compare s s' = .lt ↔ (partsOf (.infinity s)).place < (partsOf (.infinity s')).place := by
  cases s <;> cases s'
  case negative.positive => exact iff_of_true rfl bot_lt_top
  case negative.negative | positive.positive => exact iff_of_false (by decide) (lt_irrefl _)
  case positive.negative => exact iff_of_false (by decide) not_lt_bot

theorem compare_finite (h : Canonical m e) (h' : Canonical m' e') (hm : 0 < m) (hm' : 0 < m') :
    UnpackedFloat.compare (.finite s m e hm) (.finite s' m' e' hm') = some .lt ↔
      s.apply (steps m e) < s'.apply (steps m' e') := by
  have positive : 0 < steps m e := Nat.mul_pos hm (twoTo_pos _)
  have positive' : 0 < steps m' e' := Nat.mul_pos hm' (twoTo_pos _)
  cases s <;> cases s'
  case negative.negative =>
    change some ((compare e e').then (compare m m')).swap = some Ordering.lt ↔ -(steps m e : Int) < -(steps m' e' : Int)
    rw [← compare_magnitude, Option.some.injEq, compare_steps h' h]
    omega
  case negative.positive =>
    refine iff_of_true rfl ?_
    change -(steps m e : Int) < steps m' e'
    omega
  case positive.negative =>
    refine iff_of_false nofun ?_
    change ¬ (steps m e : Int) < -(steps m' e' : Int)
    omega
  case positive.positive =>
    change some ((compare e e').then (compare m m')) = some Ordering.lt ↔ (steps m e : Int) < steps m' e'
    rw [Option.some.injEq, compare_steps h h']
    omega

theorem compare_zero_finite (s : UnpackedFloat.Sign) (hm : 0 < m) :
    UnpackedFloat.compare (.zero s) (.finite s' m e hm) = some .lt ↔ 0 < s'.apply (steps m e) := by
  have positive : 0 < steps m e := Nat.mul_pos hm (twoTo_pos _)
  cases s' with
  | negative =>
    refine iff_of_false nofun ?_
    change ¬ 0 < -(steps m e : Int)
    omega
  | positive =>
    refine iff_of_true rfl ?_
    change 0 < (steps m e : Int)
    omega

theorem compare_finite_zero (s : UnpackedFloat.Sign) (hm : 0 < m) :
    UnpackedFloat.compare (.finite s' m e hm) (.zero s) = some .lt ↔ s'.apply (steps m e) < 0 := by
  have positive : 0 < steps m e := Nat.mul_pos hm (twoTo_pos _)
  cases s' with
  | negative =>
    refine iff_of_true rfl ?_
    change -(steps m e : Int) < 0
    omega
  | positive =>
    refine iff_of_false nofun ?_
    change ¬ (steps m e : Int) < 0
    omega

theorem compare_unpacked {u v : UnpackedFloat} (hu : u.isNaN = false) (hv : v.isNaN = false) (cu : IsCanonical u)
    (cv : IsCanonical v) : u.compare v = some .lt ↔ (partsOf u).place < (partsOf v).place := by
  rcases u with s | _ | s | ⟨s, m, e, hm⟩ <;> rcases v with s' | _ | s' | ⟨s', m', e', hm'⟩
  case notANumber.infinity | notANumber.notANumber | notANumber.zero | notANumber.finite => exact nomatch hu
  case infinity.notANumber | zero.notANumber | finite.notANumber => exact nomatch hv
  case infinity.infinity =>
    rw [← compare_infinite]
    exact Option.some_inj
  case infinity.zero | infinity.finite =>
    first | rw [place_zero] | rw [place_finite]
    cases s with
    | negative => exact iff_of_true rfl (Place.bot_lt_of _)
    | positive => exact iff_of_false nofun not_top_lt
  case zero.infinity | finite.infinity =>
    first | rw [place_zero] | rw [place_finite]
    cases s' with
    | negative => exact iff_of_false nofun not_lt_bot
    | positive => exact iff_of_true rfl (Place.of_lt_top _)
  case zero.zero =>
    rw [place_zero, place_zero]
    exact iff_of_false nofun (lt_irrefl _)
  case zero.finite => rw [place_zero, place_finite, Place.of_lt_of, compare_zero_finite]
  case finite.zero => rw [place_zero, place_finite, Place.of_lt_of, compare_finite_zero]
  case finite.finite =>
    rw [place_finite, place_finite, Place.of_lt_of, compare_finite (cu s m e hm rfl) (cv s' m' e' hm' rfl)]

theorem lt_iff_place {a b : Float} (ha : a.isNaN = false) (hb : b.isNaN = false) : a < b ↔ place a < place b := by
  rw [lt_iff, place, place, decode_eq, decode_eq]
  exact compare_unpacked ha hb (isCanonical_unpack a) (isCanonical_unpack b)

theorem le_iff_place {a b : Float} (ha : a.isNaN = false) (hb : b.isNaN = false) : a ≤ b ↔ place a ≤ place b := by
  by_cases h : b < a
  · have hplace := (lt_iff_place hb ha).mp h
    exact iff_of_false (fun le => not_lt_of_le le h) (not_le_of_gt hplace)
  · have hplace := mt (lt_iff_place hb ha).mpr h
    exact iff_of_true ((le_iff_of_not_lt h).mpr ⟨hb, ha⟩) (not_lt.mp hplace)

theorem lt_of_le_of_lt {a b c : Float} (hab : a ≤ b) (hbc : b < c) : a < c := by
  obtain ⟨ha, hb⟩ := number_of_le hab
  have hc := (number_of_lt hbc).2
  rw [le_iff_place ha hb] at hab
  rw [lt_iff_place hb hc] at hbc
  rw [lt_iff_place ha hc]
  exact hab.trans_lt hbc

theorem signed_mul (negative : Bool) (n k : Nat) : signed negative (n * k) = signed negative n * k := by
  cases negative with
  | false => exact Int.natCast_mul n k
  | true =>
    change -((n * k : Nat) : Int) = -(n : Int) * k
    rw [Int.natCast_mul, Int.neg_mul]

theorem quotient_steps (m : Nat) (negative : Bool) (hleast : minExponent ≤ e) (n : Int) :
    ∃ scale : Nat, 0 < scale ∧ signed negative (steps m e) = signed negative (quotient m e).1 * scale ∧
      n * twoTo 1074 = n * (quotient m e).2 * scale := by
  have hpower (j k : Nat) : twoTo (j + k) = twoTo j * twoTo k := Nat.pow_add 2 j k
  unfold quotient steps
  rw [minExponent] at hleast ⊢
  split
  next hwhole =>
    refine ⟨twoTo 1074, twoTo_pos _, ?_, congrArg (· * (twoTo 1074 : Int)) (Int.mul_one n).symm⟩
    rw [← signed_mul, Nat.mul_assoc, ← hpower]
    congr 3
    omega
  next hpart =>
    refine ⟨twoTo (e - -1074).toNat, twoTo_pos _, signed_mul negative m _, ?_⟩
    rw [Int.mul_assoc, ← Int.natCast_mul, ← hpower]
    congr 3
    omega

theorem compareWhole_place {x : Float} (hx : x.isNaN = false) (n : Int) :
    (compareWhole x n = some .lt ↔ place x < placeOf n) ∧ (compareWhole x n = some .gt ↔ placeOf n < place x) := by
  rw [compareWhole, place]
  cases hdecode : decode x with
  | finite negative m e =>
    have hleast := (canonical_of_decode hdecode).least
    obtain ⟨scale, positive, hplace, hwhole⟩ := quotient_steps m negative hleast n
    have hscale : 0 < (scale : Int) := Int.natCast_pos.mpr positive
    dsimp only
    rw [Option.some_inj, Option.some_inj, Int.compare_eq_lt, Int.compare_eq_gt, Parts.place, placeOf, Place.of_lt_of,
      Place.of_lt_of, hplace, hwhole]
    exact ⟨(Int.mul_lt_mul_right hscale).symm, (Int.mul_lt_mul_right hscale).symm⟩
  | infinite negative =>
    cases negative with
    | true => exact ⟨iff_of_true rfl (Place.bot_lt_of _), iff_of_false (by simp) not_lt_bot⟩
    | false => exact ⟨iff_of_false (by simp) not_top_lt, iff_of_true rfl (Place.of_lt_top _)⟩
  | undefined =>
    have undefined := (decode_undefined_iff x).mp hdecode
    rw [hx] at undefined
    cases undefined

end Preflight.Double
