import Preflight.Number.Double

/-!
Trigonometric functions of doubles, each answer the double nearest to the real value. Values are computed as
whole multiples of `2 ^ -p` with some two hundred bits to spare, so rounding once at the end is rounding the
real value. A function answers `none` where it has no value.
-/
namespace Preflight.Trigonometry

open Preflight.Double

def inverseSeries (squared : Nat) : Nat → Nat → Nat → Bool → Int
  | 0, _, _, _ => 0
  | fuel + 1, power, odd, negative =>
    if power = 0 then 0
    else signed negative (power / odd) + inverseSeries squared fuel (power / squared) (odd + 2) (!negative)

def inverseTangent (k p : Nat) : Int := inverseSeries (k * k) (p + 1) (twoTo p / k) 1 false

def pi (p : Nat) : Nat :=
  (4 * (4 * inverseTangent 5 (p + 32) - inverseTangent 239 (p + 32))).toNat / twoTo 32

def factorialSeries (p : Nat) (squared : Int) : Nat → Nat → Int → Int
  | 0, _, _ => 0
  | fuel + 1, k, term =>
    if term = 0 then 0
    else term + factorialSeries p squared fuel (k + 2)
      (Int.tdiv (-(term * squared)) (twoTo p * ((k + 1) * (k + 2)) : Nat))

def smallAngle (p : Nat) (r : Int) : Int × Int :=
  let squared := Int.tdiv (r * r) (twoTo p)
  (factorialSeries p squared 60 1 r, factorialSeries p squared 60 0 (twoTo p))

def magnitude (mantissa : Nat) (exponent : Int) : Int := (mantissa.log2 : Int) + exponent

def spareBits : Nat := 256

def sineCosine (mantissa : Nat) (exponent : Int) : Nat × Int × Int :=
  let place := magnitude mantissa exponent
  let p := spareBits + (-place).toNat
  let wide := p + place.toNat
  let x : Int := mantissa * twoTo (exponent + wide).toNat
  let turn : Int := pi (wide + 1)
  let quarters := (4 * x + turn / 2) / turn
  let r := Int.tdiv (4 * x - quarters * turn) (4 * twoTo (wide - p))
  let (s, c) := smallAngle p r
  match quarters % 4 with
  | 0 => (p, s, c)
  | 1 => (p, c, -s)
  | 2 => (p, -s, -c)
  | _ => (p, -c, s)

def rounded (negative : Bool) (value : Int) (p : Nat) : Float :=
  nearest (negative != (value < 0)) value.natAbs (twoTo p)

def sin (x : Float) : Option Float :=
  match decode x with
  | .finite negative m e =>
    if m = 0 then some x
    else let (p, s, _) := sineCosine m e; some (rounded negative s p)
  | .infinite _ => none
  | .undefined => some x

def cos (x : Float) : Option Float :=
  match decode x with
  | .finite _ m e =>
    if m = 0 then some 1.0
    else let (p, _, c) := sineCosine m e; some (rounded false c p)
  | .infinite _ => none
  | .undefined => some x

def tan (x : Float) : Option Float :=
  match decode x with
  | .finite negative m e =>
    if m = 0 then some x
    else
      let (_, s, c) := sineCosine m e
      some (nearest (negative != ((s < 0) != (c < 0))) s.natAbs c.natAbs)
  | .infinite _ => none
  | .undefined => some x

def doubleFactorialSeries (p ratio : Nat) : Nat → Nat → Nat → Nat
  | 0, _, _ => 0
  | fuel + 1, n, term =>
    if term = 0 then 0
    else term + doubleFactorialSeries p ratio fuel (n + 1) (term * ratio * (2 * n) / (twoTo p * (2 * n + 1)))

def slopeAngle (p across up : Nat) : Nat :=
  let square := across * across + up * up
  doubleFactorialSeries p (twoTo p * (up * up) / square) (2 * p) 1 (twoTo p * (across * up) / square)

def quarterAngle (p across up : Nat) : Nat :=
  if up ≤ across then slopeAngle p across up else pi p / 2 - slopeAngle p up across

def angleBits (across up : Nat) : Nat := spareBits + (across.log2 - up.log2)

def withSign (negative : Bool) (x : Float) : Float := if negative then -x else x

def atan2 (y x : Float) : Float :=
  match decode y, decode x with
  | .undefined, _ => nan
  | _, .undefined => nan
  | .infinite ny, .infinite nx => withSign ny (nearest false (pi 256 * (if nx then 3 else 1)) (4 * twoTo 256))
  | .infinite ny, _ => withSign ny (nearest false (pi 256) (2 * twoTo 256))
  | .finite ny _ _, .infinite nx => withSign ny (if nx then nearest false (pi 256) (twoTo 256) else 0.0)
  | .finite ny my ey, .finite nx mx ex =>
    if my = 0 then withSign ny (if nx then nearest false (pi 256) (twoTo 256) else 0.0)
    else
      let low := min ey ex
      let up := my * twoTo (ey - low).toNat
      let across := mx * twoTo (ex - low).toNat
      let p := angleBits across up
      let angle := quarterAngle p across up
      nearest ny (if nx then pi p - angle else angle) (twoTo p)

def squareRootSteps (n : Nat) : Nat → Nat → Nat
  | 0, guess => guess
  | fuel + 1, guess =>
    let next := (guess + n / guess) / 2
    if next < guess then squareRootSteps n fuel next else guess

def squareRoot (n : Nat) : Nat :=
  if n = 0 then 0 else squareRootSteps n (n.log2 + 2) (twoTo (n.log2 / 2 + 1))

def asin (x : Float) : Option Float :=
  match decode x with
  | .finite negative m e =>
    if m = 0 then some x
    else
      let (n, d) := quotient m e
      if d < n then none
      else
        let p := angleBits d n
        let across := squareRoot ((d * d - n * n) * twoTo (2 * p))
        some (nearest negative (quarterAngle p across (n * twoTo p)) (twoTo p))
  | .infinite _ => none
  | .undefined => some x

end Preflight.Trigonometry
