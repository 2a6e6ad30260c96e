import Preflight.Fault
import Preflight.Number.Trigonometry

namespace Preflight.Geodesy

def earthRadius : Float := 6378137.0

def radiansPerDegree : Float := 0.017453292519943295
def degreesPerRadian : Float := 57.29577951308232

def radians (degrees : Float) : Float := degrees * radiansPerDegree
def degrees (radians : Float) : Float := radians * degreesPerRadian

def inDomain {α : Type} : Option α → Except Fault α
  | some a => .ok a
  | none => .error .outsideDomain

def sin (x : Float) : Except Fault Float := inDomain (Trigonometry.sin x)
def cos (x : Float) : Except Fault Float := inDomain (Trigonometry.cos x)
def tan (x : Float) : Except Fault Float := inDomain (Trigonometry.tan x)
def asin (x : Float) : Except Fault Float := inDomain (Trigonometry.asin x)

def sqrt (x : Float) : Except Fault Float := if x < 0.0 then .error .outsideDomain else .ok x.sqrt

def square (x : Float) : Float := x * x

def distance (lat₁ lon₁ lat₂ lon₂ : Float) : Except Fault Float := do
  let halfLat ← sin (radians (lat₂ - lat₁) / 2.0)
  let cos₁ ← cos (radians lat₁)
  let cos₂ ← cos (radians lat₂)
  let halfLon ← sin (radians (lon₂ - lon₁) / 2.0)
  let a := square halfLat + cos₁ * cos₂ * square halfLon
  let chord ← sqrt a
  let rest ← sqrt (1.0 - a)
  return earthRadius * (2.0 * Trigonometry.atan2 chord rest)

structure Point where
  east : Float
  north : Float

def project (lat lon refLat refLon : Float) : Except Fault Point := do
  let width ← cos (radians refLat)
  return {
    north := radians (lat - refLat) * earthRadius
    east := radians (lon - refLon) * earthRadius * width }

def destination (lat lon bearing meters : Float) : Except Fault (Float × Float) := do
  let lat := radians lat
  let lon := radians lon
  let bearing := radians bearing
  let angle := meters / earthRadius
  let sinLat ← sin lat
  let cosAngle ← cos angle
  let cosLat ← cos lat
  let sinAngle ← sin angle
  let cosBearing ← cos bearing
  let sinBearing ← sin bearing
  let newLat ← asin (sinLat * cosAngle + cosLat * sinAngle * cosBearing)
  let sinNewLat ← sin newLat
  let newLon := lon + Trigonometry.atan2 (sinBearing * sinAngle * cosLat) (cosAngle - sinLat * sinNewLat)
  return (degrees newLat, degrees newLon)

def landingAngleMargin : Float := 0.1

def maxGlideSlope (landingAngle : Float) : Except Fault Float :=
  tan (radians (landingAngle + landingAngleMargin))

def tangentExit (centerToLand orbitRadius : Float) : Except Fault Float :=
  let radius := orbitRadius.abs
  sqrt (centerToLand * centerToLand - radius * radius)

end Preflight.Geodesy
