import Preflight.Check.Items
import Preflight.Value.Access

namespace Preflight

inductive Limit where
  | meters (x : Float)
  | whole (n : Int)
  | unusable (kind : String)
  deriving Inhabited

namespace Limit

def ofValue : Value → Limit
  | .real x => meters x
  | .whole n => whole n
  | .boolean b => whole (if b then 1 else 0)
  | v => unusable v.kind

def off : Limit := meters 0.0

def isOff : Limit → Except Fault Bool
  | meters x => .ok (x ≤ 0.0)
  | whole n => .ok (n ≤ 0)
  | unusable kind => .error (.notComparable "<=" kind "float")

def isAbove (limit : Limit) (distance : Float) : Bool :=
  match limit with
  | meters x => distance < x
  | whole n => Double.compareWhole distance n == some .lt
  | unusable _ => false

def isBelow (limit : Limit) (distance : Float) : Bool :=
  match limit with
  | meters x => x < distance
  | whole n => Double.compareWhole distance n == some .gt
  | unusable _ => false

def toWhole : Limit → Except Fault Int
  | meters x => Value.wholeOfReal (Double.truncate x)
  | whole n => .ok n
  | unusable kind => .error (.notWhole kind)

end Limit

structure Limits where
  first : Limit := .off
  between : Limit := .off

end Preflight

namespace Preflight.Check

def leastGateDistance : Float := 0.05

def measureFirst {σ : Type} (ctx : Context σ) (limit : Limit) (index : Nat) (item : Item) :
    Except Fault (Progress Unit (Option Finding)) := do
  if !ctx.hasPosition item then return .going ()
  let home := ctx.vehicle.home
  let distance ← ctx.distance item.lat item.lon home.lat home.lon
  if limit.isAbove distance then return .stopped none
  return .stopped (some (.firstTooFar index (← wholeOf distance) (← limit.toWhole)))

def firstDistance {σ : Type} (limit : Limit) : Check σ := fun ctx flags => do
  if ← limit.isOff then return .pass flags
  match ← ctx.scanItems () fun index item _ => measureFirst ctx limit index item with
  | .going _ | .stopped none => return .pass flags
  | .stopped (some finding) => return (Outcome.fail flags finding).withWarning
  | .unreadable reason _ => return .unreadable flags reason true

def isGate (item : Item) : Bool := item.carries .conditionGate

def neighbourFault {σ : Type} (ctx : Context σ) (limit : Limit) (index : Nat) (last item : Item) :
    Except Fault (Option Finding) := do
  let distance ← ctx.distance item.lat item.lon last.lat last.lon
  if limit.isBelow distance then
    return some (.tooFarApart index (← wholeOf distance) (← limit.toWhole))
  if distance < leastGateDistance && (isGate item || isGate last) then
    return some (.gateTooClose index distance leastGateDistance)
  return none

def measureNeighbour {σ : Type} (ctx : Context σ) (limit : Limit) (index : Nat) (item : Item)
    (last : Option Item) : Except Fault (Progress (Option Item) Finding) := do
  if !ctx.hasPosition item then return .going last
  match last with
  | none => return .going (some item)
  | some before => return stopAt (some item) (← neighbourFault ctx limit index before item)

def betweenDistance {σ : Type} (limit : Limit) : Check σ := fun ctx flags => do
  if ← limit.isOff then return .pass flags
  match ← ctx.scanItems none (measureNeighbour ctx limit) with
  | .going _ => return .pass flags
  | .stopped finding => return (Outcome.fail flags finding).withWarning
  | .unreadable reason _ => return .unreadable flags reason true

end Preflight.Check
