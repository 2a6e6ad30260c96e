import Preflight.Command
import Preflight.Number.Decimal

namespace Preflight

def paramCount : Nat := 7

abbrev Params := Vector Float paramCount

namespace Params

def ofList (xs : List Float) : Params := Vector.ofFn fun i => xs.getD i 0.0

def zero : Params := ofList []

end Params

structure Item where
  code : Int
  lat : Float := 0.0
  lon : Float := 0.0
  altitude : Float := 0.0
  relative : Bool := true
  acceptanceRadius : Float := 0.0
  loiterRadius : Float := 0.0
  params : Params := Params.zero

namespace Item

def carries (item : Item) (c : Command) : Bool := item.code == c.code

theorem carries_unique {item : Item} {c d : Command} (hc : item.carries c = true) (hd : item.carries d = true) : c = d :=
  Command.code_injective (Int.ofNat_inj.mp ((beq_iff_eq.mp hc).symm.trans (beq_iff_eq.mp hd)))

def capability (item : Item) : Capability := Capability.ofCode item.code

def hasPosition (item : Item) : Bool := item.capability.hasPosition

def altitudeAmsl (item : Item) (homeAltitude : Float) : Float :=
  if item.relative then item.altitude + homeAltitude else item.altitude

def toAmsl (item : Item) (homeAltitude : Float) : Item :=
  if item.relative then { item with altitude := item.altitude + homeAltitude, relative := false } else item

theorem altitude_toAmsl (item : Item) (homeAltitude : Float) :
    (item.toAmsl homeAltitude).altitude = item.altitudeAmsl homeAltitude := by
  unfold toAmsl altitudeAmsl
  split <;> rfl

def sameNumber (x y : Float) : Bool := x == y || (x != x && y != y)

def same (a b : Item) : Bool :=
  a.code == b.code && sameNumber a.lat b.lat && sameNumber a.lon b.lon && sameNumber a.altitude b.altitude &&
    a.relative == b.relative && sameNumber a.acceptanceRadius b.acceptanceRadius &&
    sameNumber a.loiterRadius b.loiterRadius &&
    (a.params.toList.zip b.params.toList).all fun p => sameNumber p.1 p.2

end Item

structure Mission where
  count : Int
  storageId : String
  deriving DecidableEq, Repr

end Preflight
