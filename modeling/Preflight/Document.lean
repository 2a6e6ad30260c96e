import Preflight.Fence
import Preflight.Item.Document
import Preflight.Log
import Preflight.Value.Access
import Preflight.Vehicle

namespace Preflight.Home

open Fault

def readFields (v : Value) : Except Fault Home := do
  let lat ← (← v.field "lat").toReal
  let lon ← (← v.field "lon").toReal
  let altitude ← (← v.field "alt").toReal
  return ofNumbers lat lon altitude

def ofValue (v : Value) : Except Fault Home :=
  refusing [.key, .kind, .value] (fun reason => s!"invalid home position: {reason}") (readFields v)

def underKey (v : Value) (key : String) : Except Fault (Option Home) := do
  let given ← v.getD key .null
  if given.isGiven then return some (← ofValue given) else return none

end Preflight.Home

namespace Preflight

open Fault

def inclusionOf (entry : Value) : Except Fault Bool := do
  return (← entry.getD "inclusion" (.boolean true)).isGiven

def Position.ofValue (v : Value) : Except Fault Position := do
  let (lat, lon) ← v.pair
  let lat ← lat.toReal
  let lon ← lon.toReal
  return { lat, lon }

def Polygon.ofEntry (entry : Value) : Except Fault Polygon := do
  let vertices ← (← (← entry.field "polygon").elements).mapM Position.ofValue
  let inclusion ← inclusionOf entry
  ofVertices vertices inclusion

def Circle.ofEntry (entry : Value) : Except Fault Circle := do
  let circle ← entry.field "circle"
  let center ← Position.ofValue (← circle.field "center")
  let radius ← (← circle.field "radius").toReal
  return { center, radius, inclusion := ← inclusionOf entry }

def AreaFence.readFields (v : Value) : Except Fault AreaFence := do
  let polygons ← (← (← v.getD "polygons" (.list [])).elements).mapM Polygon.ofEntry
  let circles ← (← (← v.getD "circles" (.list [])).elements).mapM Circle.ofEntry
  let ceiling ← match ← v.getD "max_altitude_amsl" .null with
    | .null => pure none
    | given => some <$> given.toReal
  let homeRequired := (← v.getD "home_required" (.boolean false)).isGiven
  return build polygons circles ceiling homeRequired

def AreaFence.ofValue (v : Value) : Except Fault AreaFence :=
  refusing [.key, .kind, .value] (fun reason => s!"invalid geofence: {reason}") (readFields v)

structure Document where
  items : List Item
  home : Option Home := none
  fence : Geofence := .unlimited

namespace Document

open Fault

def refuse {α : Type} (reason : String) : Except Fault α := .error (.invalid reason)

def fenceUnder (v : Value) (key : String) : Except Fault Geofence := do
  let given ← v.getD key .null
  if given.isGiven then return .areas (← AreaFence.ofValue given) else return .unlimited

def ofPlain (v : Value) : Except Fault Document := do
  if !(← v.holds "items") then refuse "mission has no items"
  let items ← match ← v.field "items" with
    | .list items => Item.listOfValue (.list items)
    | _ => refuse "mission items must be a list"
  let home ← Home.underKey v "home"
  let fence ← fenceUnder v "geofence"
  return { items, home, fence }

end Document

def Geofence.notes : Geofence → List Log.Line
  | unlimited => []
  | areas fence =>
    if fence.ignored = 0 then []
    else [Log.line Log.warning .fence s!"Ignoring {fence.ignored} degenerate geofence area(s)"]

end Preflight
