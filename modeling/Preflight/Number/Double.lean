/-!
Doubles as exact numbers. `decode` takes a double apart into a sign, a whole number and a power of two;
`nearest` goes back from a quotient of natural numbers to the double nearest to it, a tie going to the even
neighbour. Whole parts are taken exactly, so `truncate`, `floor` and `ceiling` hold at every magnitude.
-/
namespace Preflight

def twoTo (n : Nat) : Nat := Nat.pow 2 n

def tenTo (n : Nat) : Nat := Nat.pow 10 n

theorem tenTo_succ (n : Nat) : tenTo (n + 1) = tenTo n * 10 := rfl

theorem tenTo_le_tenTo {m n : Nat} (h : m ≤ n) : tenTo m ≤ tenTo n := Nat.pow_le_pow_right (by decide) h

theorem twoTo_succ (n : Nat) : twoTo (n + 1) = twoTo n * 2 := rfl

theorem twoTo_pos (n : Nat) : 0 < twoTo n := by
  induction n with
  | zero => exact Nat.one_pos
  | succ n ih => rw [twoTo_succ]; omega

end Preflight

namespace Preflight.Double

inductive Parts where
  | finite (negative : Bool) (mantissa : Nat) (exponent : Int)
  | infinite (negative : Bool)
  | undefined
  deriving DecidableEq, Repr

def minExponent : Int := -1074

def decode (x : Float) : Parts :=
  let bits := x.toBits.toNat
  let negative := bits / twoTo 63 == 1
  let exponent : Nat := bits / twoTo 52 % twoTo 11
  let fraction := bits % twoTo 52
  if exponent = 2047 then
    if fraction = 0 then .infinite negative else .undefined
  else if exponent = 0 then .finite negative fraction minExponent
  else .finite negative (twoTo 52 + fraction) (exponent - 1075)

def isFinite (x : Float) : Bool :=
  match decode x with
  | .finite .. => true
  | _ => false

def isInfinite (x : Float) : Bool :=
  match decode x with
  | .infinite _ => true
  | _ => false

def infinity : Float := Float.ofBits 0x7ff0000000000000
def nan : Float := Float.ofBits 0x7ff8000000000000

def roundDiv (num den : Nat) : Nat :=
  let q := num / den
  let r := num % den
  if 2 * r < den ∨ (2 * r = den ∧ q % 2 = 0) then q else q + 1

def quotient (mantissa : Nat) (exponent : Int) : Nat × Nat :=
  if 0 ≤ exponent then (mantissa * twoTo exponent.toNat, 1) else (mantissa, twoTo (-exponent).toNat)

/-- The bits of `± mantissa * 2 ^ exponent`, for a mantissa of at most `2 ^ 53`; past the largest double
they are those of infinity. -/
def encode (negative : Bool) (mantissa : Nat) (exponent : Int) : Float :=
  let sign := if negative then twoTo 63 else 0
  let magnitude :=
    if mantissa < twoTo 52 then mantissa
    else min ((exponent + 1075).toNat * twoTo 52 + (mantissa - twoTo 52)) (2047 * twoTo 52)
  Float.ofBits (UInt64.ofNat (sign + magnitude))

def nearest (negative : Bool) (num den : Nat) : Float :=
  if num = 0 then encode negative 0 minExponent
  else
    let estimate : Int := max ((num.log2 : Int) - den.log2 - 53) minExponent
    let scaled (e : Int) : Nat × Nat :=
      if 0 ≤ e then (num, den * twoTo e.toNat) else (num * twoTo (-e).toNat, den)
    let (n, d) := scaled estimate
    if n / d < twoTo 53 then encode negative (roundDiv n d) estimate
    else
      let (n, d) := scaled (estimate + 1)
      encode negative (roundDiv n d) (estimate + 1)

def ofInt (n : Int) : Float := nearest (n < 0) n.natAbs 1

inductive Whole where
  | value (n : Int)
  | infinite
  | undefined
  deriving DecidableEq, Repr

def signed (negative : Bool) (n : Nat) : Int := if negative then -(n : Int) else n

def truncate (x : Float) : Whole :=
  match decode x with
  | .finite negative m e => let (n, d) := quotient m e; .value (signed negative (n / d))
  | .infinite _ => .infinite
  | .undefined => .undefined

def floor (x : Float) : Whole :=
  match decode x with
  | .finite negative m e => let (n, d) := quotient m e; .value (Int.fdiv (signed negative n) d)
  | .infinite _ => .infinite
  | .undefined => .undefined

def ceiling (x : Float) : Whole :=
  match decode x with
  | .finite negative m e => let (n, d) := quotient m e; .value (-Int.fdiv (-signed negative n) d)
  | .infinite _ => .infinite
  | .undefined => .undefined

def compareWhole (x : Float) (n : Int) : Option Ordering :=
  match decode x with
  | .finite negative m e => let (p, q) := quotient m e; some (compare (signed negative p) (n * q))
  | .infinite negative => some (if negative then .lt else .gt)
  | .undefined => none

end Preflight.Double
