import Preflight.Value.Access

namespace Preflight.Value

inductive Number where
  | whole (n : Int)
  | real (x : Float)

def number? : Value → Option Number
  | boolean b => some (.whole (if b then 1 else 0))
  | whole n => some (.whole n)
  | real x => some (.real x)
  | _ => none

def Number.isBelow : Number → Number → Bool
  | whole m, whole n => m < n
  | real x, real y => x < y
  | whole n, real x => Double.compareWhole x n == some .gt
  | real x, whole n => Double.compareWhole x n == some .lt

def codePoints (s : String) : List Nat := s.toList.map Text.Surrogate.codePoint

def isBelow (a b : Value) : Except Fault Bool :=
  match a, b with
  | text s, text t => .ok (codePoints s < codePoints t)
  | octets s, octets t => .ok (s.map UInt8.toNat < t.map UInt8.toNat)
  | date d, date e => .ok (d.ordinal < e.ordinal)
  | moment m, moment n =>
    if m.offset.isSome = n.offset.isSome then .ok (m.instant < n.instant)
    else .error (.unordered "can't compare offset-naive and offset-aware datetimes")
  | date _, moment _ | moment _, date _ => .error (.unordered "can't compare datetime.datetime to datetime.date")
  | a, b =>
    match a.number?, b.number? with
    | some m, some n => .ok (m.isBelow n)
    | _, _ => .error (.notComparable "<" a.kind b.kind)

section Sorting

variable {α : Type} (below : α → α → Except Fault Bool)

def cutRun (falls : Bool) : α → List α → Except Fault (List α × List α)
  | _, [] => .ok ([], [])
  | a, b :: rest => do
    if (← below b a) == falls then
      let (run, rest) ← cutRun falls b rest
      return (b :: run, rest)
    else return ([], b :: rest)

def placeFor [Inhabited α] (x : α) (sorted : Array α) : Nat → Nat → Nat → Except Fault Nat
  | 0, low, _ => .ok low
  | fuel + 1, low, high => do
    if high ≤ low then return low
    let middle := low + (high - low) / 2
    if ← below x (sorted.getD middle default) then placeFor x sorted fuel low middle
    else placeFor x sorted fuel (middle + 1) high

def insertSorted [Inhabited α] (sorted : Array α) (x : α) : Except Fault (Array α) := do
  let place ← placeFor below x sorted sorted.size 0 sorted.size
  return (sorted.toList.take place ++ x :: sorted.toList.drop place).toArray

def sortBy [Inhabited α] : List α → Except Fault (List α)
  | a :: b :: rest => do
    let falls ← below b a
    let (run, rest) ← cutRun below falls b rest
    let run := a :: b :: run
    let sorted ← rest.foldlM (insertSorted below) (if falls then run.reverse else run).toArray
    return sorted.toList
  | items => .ok items

end Sorting

end Preflight.Value
