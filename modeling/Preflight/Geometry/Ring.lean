import Preflight.Geometry.Geodesy
import Preflight.Number.Pair

/-!
Closed rings in the plane. `Ring.contains` is the even-odd rule: a point is inside when a ray from it to the east
crosses the ring an odd number of times, and a point on the ring is not inside. A crossing is decided by the turn from
a segment to the point, in doubles where their error cannot change its sign and in pairs of doubles elsewhere.
-/
namespace Preflight

open Geodesy (Point)

structure Ring where
  vertices : List Point

namespace Ring

def turnError : Float := 3.3306690621773724e-16

def signOf (x : Float) : Int := if x < 0.0 then -1 else if 0.0 < x then 1 else 0

def quickTurn? (a b p : Point) : Option Int :=
  let left := (a.east - p.east) * (b.north - p.north)
  let right := (a.north - p.north) * (b.east - p.east)
  let turn := left - right
  if (left + right).abs * turnError ≤ turn.abs then some (signOf turn) else none

def carefulTurn (a b p : Point) : Int :=
  let difference (x y : Float) : Pair := (Pair.ofFloat x).add (.ofFloat (-y))
  let east := difference b.east a.east
  let north := difference b.north a.north
  let east' := difference p.east b.east
  let north' := difference p.north b.north
  ((east.mul north').sub (north.mul east')).sign

def turn (a b p : Point) : Except Fault Int :=
  if Double.isFinite p.east && Double.isFinite p.north then .ok ((quickTurn? a b p).getD (carefulTurn a b p))
  else .error .endlessRay

inductive Meeting where
  | apart
  | crossed
  | touched
  deriving DecidableEq, Repr

def meet (p a b : Point) : Except Fault Meeting := do
  if a.east < p.east ∧ b.east < p.east then return .apart
  else if p.east == b.east ∧ p.north == b.north then return .touched
  else if a.north == p.north ∧ b.north == p.north then
    let west := if b.east < a.east then b.east else a.east
    let east := if b.east < a.east then a.east else b.east
    return if west ≤ p.east ∧ p.east ≤ east then .touched else .apart
  else if (p.north < a.north ∧ b.north ≤ p.north) ∨ (p.north < b.north ∧ a.north ≤ p.north) then
    let side ← turn a b p
    return if side = 0 then .touched
      else if 0 < (if b.north < a.north then -side else side) then .crossed
      else .apart
  else return .apart

def segments (ring : Ring) : List (Point × Point) :=
  match ring.vertices with
  | [] => []
  | first :: rest => (first :: rest).zip (rest ++ [first])

def bounds (ring : Ring) (p : Point) : Bool :=
  ring.vertices.any (·.east ≤ p.east) && ring.vertices.any (p.east ≤ ·.east) &&
    ring.vertices.any (·.north ≤ p.north) && ring.vertices.any (p.north ≤ ·.north)

def crossesOdd (p : Point) (isOdd : Bool) : List (Point × Point) → Except Fault Bool
  | [] => .ok isOdd
  | (a, b) :: rest => do
    match ← meet p a b with
    | .touched => return false
    | .crossed => crossesOdd p (!isOdd) rest
    | .apart => crossesOdd p isOdd rest

def contains (ring : Ring) (p : Point) : Except Fault Bool :=
  if ring.bounds p then crossesOdd p false ring.segments else .ok false

def closes (ring : Ring) : Bool :=
  match ring.vertices with
  | [] => true
  | first :: _ => first.east == first.east && first.north == first.north

end Ring

end Preflight
