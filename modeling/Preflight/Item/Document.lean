import Preflight.Item
import Preflight.Value.Access

namespace Preflight.Item

open Fault

def readParams (v : Value) : Except Fault (List Float) := do
  (← (← v.getD "params" (.list [])).elements).mapM Value.toReal

def shownParams (v : Value) : Except Fault String := do (← v.getD "params" .null).shown Value.literal

def realField (v : Value) (key : String) : Except Fault Float := do (← v.getD key (.real 0.0)).toReal

def readFields (v : Value) (relative : Bool) (params : Params) : Except Fault Item := do
  let code ← (← v.field "command").toWhole
  let lat ← realField v "lat"
  let lon ← realField v "lon"
  let altitude ← realField v "alt"
  let acceptanceRadius ← realField v "acceptance_radius"
  let loiterRadius ← realField v "loiter_radius"
  return { code, lat, lon, altitude, relative, acceptanceRadius, loiterRadius, params }

def ofValue (v : Value) : Except Fault Item := do
  if !(← v.holds "command") then throw (.invalid "missing required field 'command'")
  let params ← refusingWith [.kind, .value] (s!"invalid params {·}") (shownParams v) (readParams v)
  if paramCount < params.length then
    throw (.invalid s!"at most {paramCount} params allowed, got {params.length}")
  match ← v.getD "relative_alt" (.boolean true) with
  | .boolean relative => refusing [.kind, .value] id (readFields v relative (Params.ofList params))
  | given => throw (refusal (s!"relative_alt must be true or false, got {·}") (given.shown Value.literal))

def atPosition {α : Type} (position : Nat) (x : Except Fault α) : Except Fault α :=
  refusing [.invalid] (fun reason => s!"Item {position}: {reason}") x

def readFrom (position : Nat) : List Value → Except Fault (List Item)
  | [] => .ok []
  | v :: rest => do
    let item ← match v with
      | .mapping _ => atPosition position (ofValue v)
      | _ => .error (.invalid s!"Item {position}: expected an object")
    return item :: (← readFrom (position + 1) rest)

def listOfValue (v : Value) : Except Fault (List Item) := do readFrom 1 (← v.elements)

def toValue (item : Item) : Value :=
  .mapping [
    ("command", .whole item.code),
    ("lat", .real item.lat),
    ("lon", .real item.lon),
    ("alt", .real item.altitude),
    ("relative_alt", .boolean item.relative),
    ("acceptance_radius", .real item.acceptanceRadius),
    ("loiter_radius", .real item.loiterRadius),
    ("params", .list (item.params.toList.map .real))]

def listToValue (items : List Item) : Value := .mapping [("items", .list (items.map toValue))]

end Preflight.Item
