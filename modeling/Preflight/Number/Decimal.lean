import Preflight.Number.Double

namespace Preflight.Decimal

open Preflight.Double

structure Style where
  least : Int
  bound : Int
  exponentWidth : Nat
  pointed : Bool
  deriving DecidableEq, Repr

def plain : Style := ⟨-4, 16, 2, false⟩

def digits (n : Nat) : List Char := Nat.toDigits 10 n

def pointPlace (num den : Nat) : Int :=
  if den ≤ num then (digits (num / den)).length
  else 1 - ((digits ((den + num - 1) / num - 1)).length : Int)

structure Scaled where
  units : Nat
  exponent : Int
  deriving DecidableEq, Repr

def power (e : Int) : Nat × Nat := if 0 ≤ e then (tenTo e.toNat, 1) else (1, tenTo (-e).toNat)

def gridPoint? (mantissa : Nat) (e : Int) (exponent : Int) : Option Scaled :=
  let (fn, fd) := quotient 1 (e - 2)
  let (tn, td) := power exponent
  let step := tn * fd
  let unit := fn * td
  let below := if mantissa = twoTo 52 ∧ minExponent < e then 1 else 2
  let low := (4 * mantissa - below) * unit
  let value := 4 * mantissa * unit
  let high := (4 * mantissa + 2) * unit
  let inside (c : Nat) : Bool :=
    if mantissa % 2 = 0 then low ≤ c * step ∧ c * step ≤ high else low < c * step ∧ c * step < high
  let c := value / step
  match inside c, inside (c + 1) with
  | true, true => some ⟨roundDiv value step, exponent⟩
  | true, false => some ⟨c, exponent⟩
  | false, true => some ⟨c + 1, exponent⟩
  | false, false => none

def shortest (mantissa : Nat) (e : Int) : Scaled :=
  let (n, d) := quotient mantissa e
  let place := pointPlace n d
  ((List.range 17).findSome? fun (k : Nat) => gridPoint? mantissa e (place - (k + 1))).getD ⟨0, 0⟩

def dropTrailingZeros (cs : List Char) : List Char := (cs.reverse.dropWhile (· == '0')).reverse

def zeros (n : Nat) : List Char := List.replicate n '0'

def padded (width : Nat) (cs : List Char) : List Char := zeros (width - cs.length) ++ cs

def exponentText (width : Nat) (e : Int) : List Char :=
  'e' :: (if e < 0 then '-' else '+') :: padded width (digits e.natAbs)

def signText (negative : Bool) : List Char := if negative then ['-'] else []

def withPoint (pointed : Bool) (whole : Nat) (ds : List Char) : List Char :=
  ds.take whole ++ (if whole < ds.length || pointed then '.' :: ds.drop whole else [])

def Scaled.render (style : Style) (s : Scaled) : List Char :=
  let all := digits s.units
  let place : Int := all.length + s.exponent
  let ds := dropTrailingZeros all
  if style.least ≤ place - 1 ∧ place - 1 < style.bound then
    if place ≤ 0 then '0' :: '.' :: zeros (-place).toNat ++ ds
    else
      let p := place.toNat
      if ds.length ≤ p then ds ++ zeros (p - ds.length) ++ ['.', '0'] else ds.take p ++ '.' :: ds.drop p
  else
    withPoint style.pointed 1 ds ++ exponentText style.exponentWidth (place - 1)

def render (finite : Nat → Int → List Char) (x : Float) : String :=
  match decode x with
  | .finite negative m e => String.ofList (signText negative ++ finite m e)
  | .infinite negative => if negative then "-inf" else "inf"
  | .undefined => "nan"

def toTextIn (style : Style) (x : Float) : String :=
  render (fun m e => if m = 0 then ['0', '.', '0'] else (shortest m e).render style) x

def toText (x : Float) : String := toTextIn plain x

def finest : Nat := 1074

def fixedDigits (pointed : Bool) (places : Nat) (m : Nat) (e : Int) : List Char :=
  let (n, d) := quotient m e
  let exact := min places finest
  let ds := padded (exact + 1) (digits (roundDiv (n * tenTo exact) d))
  withPoint pointed (ds.length - exact) (ds ++ zeros (places - exact))

def fixed (pointed : Bool) (places : Nat) (x : Float) : String := render (fixedDigits pointed places) x

def significant (count : Nat) (m : Nat) (e : Int) : List Char × Int :=
  if m = 0 then (zeros count, 1)
  else
    let (n, d) := quotient m e
    let place := pointPlace n d
    let exact := min count finest
    let (tn, td) := power (place - exact)
    let r := roundDiv (n * td) (d * tn)
    let (ds, place) := if r = tenTo exact then (digits (r / 10), place + 1) else (digits r, place)
    (ds ++ zeros (count - exact), place)

def scientificDigits (pointed : Bool) (places : Nat) (m : Nat) (e : Int) : List Char :=
  let (ds, place) := significant (places + 1) m e
  withPoint pointed 1 ds ++ exponentText 2 (place - 1)

def scientific (pointed : Bool) (places : Nat) (x : Float) : String := render (scientificDigits pointed places) x

structure General where
  count : Nat
  full : Bool := false
  fractional : Bool := false

def General.digits (g : General) (m : Nat) (e : Int) : List Char :=
  let count := max 1 g.count
  let (all, place) := significant count m e
  let ds := if g.full then all else all.take 1 ++ dropTrailingZeros (all.drop 1)
  if place ≤ -4 ∨ ((if g.fractional then count - 1 else count : Nat) : Int) < place then
    withPoint g.full 1 ds ++ exponentText 2 (place - 1)
  else if place ≤ 0 then '0' :: '.' :: zeros (-place).toNat ++ ds
  else
    let p := place.toNat
    if p < ds.length || !g.fractional then withPoint g.full p (ds ++ zeros (p - ds.length))
    else ds ++ zeros (p - ds.length) ++ ['.', '0']

def general (g : General) (x : Float) : String := render g.digits x

end Preflight.Decimal
