namespace Preflight

inductive Airframe where
  | rotaryWing
  | fixedWing
  | vtol
  deriving DecidableEq, Repr

namespace Airframe

def name : Airframe → String
  | rotaryWing => "rotary-wing"
  | fixedWing => "fixed-wing"
  | vtol => "vtol"

def all : List Airframe := [rotaryWing, fixedWing, vtol]

def ofName? (name : String) : Option Airframe := all.find? fun a => a.name == name

end Airframe

structure Home where
  lat : Float := 0.0
  lon : Float := 0.0
  altitude : Float := 0.0
  known : Bool := false
  altitudeKnown : Bool := false

namespace Home

def ofNumbers (lat lon altitude : Float) : Home := ⟨lat, lon, altitude, true, true⟩

def unknown : Home := {}

end Home

inductive Presence where
  | anything
  | takeoff
  | landing
  | both
  | symmetric
  deriving DecidableEq, Repr

namespace Presence

def number : Presence → Nat
  | anything => 0
  | takeoff => 1
  | landing => 2
  | both => 3
  | symmetric => 4

def all : List Presence := [anything, takeoff, landing, both, symmetric]

def ofNumber? (n : Int) : Option Presence := all.find? fun p => (p.number : Int) == n

end Presence

structure Vehicle where
  airframe : Airframe := .rotaryWing
  landed : Bool := true
  home : Home := {}
  acceptanceRadius : Float := 10.0
  landingAngle : Option Float := some 5.0
  /-- The number of a `Presence`; another number asks for nothing. -/
  presence : Int := 0
  actuatorLimit : Float := 2000.0

end Preflight
