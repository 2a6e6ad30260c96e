import Preflight.Geometry.Ring
import Preflight.Item

/-!
Geofences: areas that an item must or must not lie in, and an altitude ceiling. An item is inside when it lies in
some inclusion area (if there is any), in no exclusion area, and not above the ceiling. Areas without an extent
are left out when a fence is built.
-/
namespace Preflight

open Geodesy (Point)

structure Position where
  lat : Float
  lon : Float

structure Polygon where
  vertices : List Position
  inclusion : Bool
  ring : Ring

structure Circle where
  center : Position
  radius : Float
  inclusion : Bool

namespace Polygon

def leastVertices : Nat := 3

def ofVertices (vertices : List Position) (inclusion : Bool) : Except Fault Polygon :=
  match vertices with
  | [] => .ok ⟨vertices, inclusion, ⟨[]⟩⟩
  | first :: _ =>
    if vertices.length < leastVertices then .ok ⟨vertices, inclusion, ⟨[]⟩⟩
    else do
      let ring := Ring.mk (← vertices.mapM fun v => Geodesy.project v.lat v.lon first.lat first.lon)
      if ring.closes then return ⟨vertices, inclusion, ring⟩ else throw .openRing

def hasExtent (p : Polygon) : Bool := leastVertices ≤ p.vertices.length

def contains (p : Polygon) (lat lon : Float) : Except Fault Bool :=
  match p.vertices with
  | [] => .ok false
  | first :: _ =>
    if p.hasExtent then do p.ring.contains (← Geodesy.project lat lon first.lat first.lon)
    else .ok false

end Polygon

namespace Circle

def hasExtent (c : Circle) : Bool := 0.0 < c.radius

def contains (c : Circle) (lat lon : Float) : Except Fault Bool := do
  return (← Geodesy.distance c.center.lat c.center.lon lat lon) ≤ c.radius

end Circle

inductive Area where
  | polygon (p : Polygon)
  | circle (c : Circle)

namespace Area

def inclusion : Area → Bool
  | polygon p => p.inclusion
  | circle c => c.inclusion

def contains (lat lon : Float) : Area → Except Fault Bool
  | polygon p => p.contains lat lon
  | circle c => c.contains lat lon

def anyContains (lat lon : Float) : List Area → Except Fault Bool
  | [] => .ok false
  | area :: rest => do if ← area.contains lat lon then return true else anyContains lat lon rest

end Area

structure AreaFence where
  polygons : List Polygon
  circles : List Circle
  ceiling : Option Float
  homeRequired : Bool
  ignored : Nat

namespace AreaFence

def build (polygons : List Polygon) (circles : List Circle) (ceiling : Option Float) (homeRequired : Bool) :
    AreaFence :=
  let keptPolygons := polygons.filter Polygon.hasExtent
  let keptCircles := circles.filter Circle.hasExtent
  { polygons := keptPolygons, circles := keptCircles, ceiling, homeRequired
    ignored := polygons.length - keptPolygons.length + (circles.length - keptCircles.length) }

def areas (fence : AreaFence) : List Area := fence.polygons.map .polygon ++ fence.circles.map .circle

def isUsable (fence : AreaFence) : Bool :=
  !fence.polygons.isEmpty || !fence.circles.isEmpty || fence.ceiling.isSome

def exceedsCeiling (fence : AreaFence) (item : Item) : Bool :=
  match fence.ceiling with
  | some ceiling => ceiling < item.altitude
  | none => false

def check (fence : AreaFence) (item : Item) : Except Fault Bool := do
  if fence.exceedsCeiling item then return false
  let inclusions := fence.areas.filter Area.inclusion
  if !inclusions.isEmpty then
    if !(← Area.anyContains item.lat item.lon inclusions) then return false
  return !(← Area.anyContains item.lat item.lon (fence.areas.filter (!·.inclusion)))

end AreaFence

inductive Geofence where
  | unlimited
  | areas (fence : AreaFence)

namespace Geofence

def isHomeRequired : Geofence → Bool
  | unlimited => false
  | areas fence => fence.homeRequired

def isUsable : Geofence → Bool
  | unlimited => false
  | areas fence => fence.isUsable

def check (item : Item) : Geofence → Except Fault Bool
  | unlimited => .ok true
  | areas fence => fence.check item

end Geofence

end Preflight
