import Preflight.Check.Distance
import Preflight.Files.Tree
import Preflight.Vehicle
import Preflight.Yaml.Tree.OfGraph
import Preflight.Yaml.Writer

/-!
Settings in three sections, from a settings file and from environment variables. A file may give a setting a value of
any kind; a variable is converted to the kind that the setting has at that moment. `vehicleWith` builds the vehicle
that the settings and the overrides of a request describe.
-/
namespace Preflight

inductive Section where
  | feasibility
  | vehicle
  | interface
  deriving DecidableEq, Repr

namespace Section

def name : Section → String
  | feasibility => "feasibility"
  | vehicle => "vehicle"
  | interface => "interface"

def all : List Section := [feasibility, vehicle, interface]

def ofName? (name : String) : Option Section := all.find? fun s => s.name == name

def defaults : Section → Entries
  | feasibility => [("max_distance_to_first_waypoint", .real 900.0), ("max_distance_between_waypoints", .real 900.0)]
  | vehicle => [("type", .text "rotary-wing"), ("landed", .boolean true), ("default_acceptance_radius", .real 10.0),
      ("landing_angle_deg", .real 5.0), ("takeoff_land_required", .whole 0), ("max_actuator_value", .real 2000.0)]
  | interface => [("rest_host", .text "0.0.0.0"), ("rest_port", .whole 8080), ("log_file", .null),
      ("log_level", .text "INFO")]

def group : Section → String
  | feasibility => "FeasibilityConfig"
  | vehicle => "VehicleConfig"
  | interface => "InterfaceConfig"

end Section

abbrev Fields := List (Yaml.Tree × Yaml.Tree)

namespace Fields

def ofEntries (entries : Entries) : Fields := entries.map fun (key, v) => (.text key, .ofValue v)

def get? (fields : Fields) (key : String) : Option Yaml.Tree :=
  (fields.find? fun e => Yaml.sameKey e.1.toValue (.text key)).map (·.2)

def insert (fields : Fields) (key : String) (value : Yaml.Tree) : Fields :=
  Yaml.insertKey Yaml.Tree.toValue fields (.text key) value

end Fields

structure Settings where
  feasibility : Fields := .ofEntries Section.feasibility.defaults
  vehicle : Fields := .ofEntries Section.vehicle.defaults
  interface : Fields := .ofEntries Section.interface.defaults

namespace Settings

def fields (s : Settings) : Section → Fields
  | .feasibility => s.feasibility
  | .vehicle => s.vehicle
  | .interface => s.interface

def withFields (s : Settings) (fields : Fields) : Section → Settings
  | .feasibility => { s with feasibility := fields }
  | .vehicle => { s with vehicle := fields }
  | .interface => { s with interface := fields }

def find? (s : Settings) (part : Section) (key : String) : Option Value :=
  ((Fields.get? (s.fields part) key).map Yaml.Tree.toValue).or (Entries.get? part.defaults key)

def get (s : Settings) (part : Section) (key : String) : Value := (s.find? part key).getD .null

def sharedNames : List String := [
  "__annotations__", "__class__", "__dataclass_fields__", "__dataclass_params__", "__delattr__", "__dict__", "__dir__",
  "__doc__", "__eq__", "__format__", "__ge__", "__getattribute__", "__getstate__", "__gt__", "__hash__", "__init__",
  "__init_subclass__", "__le__", "__lt__", "__match_args__", "__module__", "__ne__", "__new__", "__reduce__",
  "__reduce_ex__", "__repr__", "__setattr__", "__sizeof__", "__str__", "__subclasshook__", "__weakref__"]

def has (s : Settings) (part : Section) (key : String) : Bool :=
  (s.find? part key).isSome || sharedNames.contains key

def set (s : Settings) (part : Section) (key : String) (value : Yaml.Tree) : Except Fault Settings :=
  match key, value with
  | "__class__", v => .error (.fixedSetting s!"{key} must be set to a class, not '{v.kind}' object")
  | "__weakref__", _ => .error (.readOnlySetting key part.group)
  | "__dict__", .mapping _ fields => .ok (s.withFields fields part)
  | "__dict__", v => .error (.fixedSetting s!"{key} must be set to a dictionary, not a '{v.kind}'")
  | _, v => .ok (s.withFields (Fields.insert (s.fields part) key v) part)

def setEntry (part : Section) (s : Settings) (entry : Yaml.Tree × Yaml.Tree) : Except Fault Settings :=
  match entry.1.toValue with
  | .text key => if s.has part key then s.set part key entry.2 else .ok s
  | key => .error (.settingKey key.kind)

def setSection (s : Settings) (entry : Yaml.Tree × Yaml.Tree) : Except Fault Settings :=
  match entry with
  | (.leaf _ (.text name), .mapping _ fields) =>
    match Section.ofName? name with
    | some part => fields.foldlM (setEntry part) s
    | none => .ok s
  | _ => .ok s

def update (s : Settings) (document : Yaml.Tree) : Except Fault Settings :=
  match document with
  | .mapping _ sections => sections.foldlM setSection s
  | tree => .error (.noOperation tree.kind "items")

def variableStart : String := "MISCHECK_"

def target? (name : String) : Option (Section × String) :=
  if !name.startsWith variableStart then none
  else
    let cs := (Text.toLower name).toList.drop variableStart.length
    let part := cs.takeWhile (· != '_')
    match cs.drop part.length with
    | _ :: key => (Section.ofName? (String.ofList part)).map (·, String.ofList key)
    | [] => none

def affirmations : List String := ["true", "1", "yes"]

def convert (key : String) (current : Value) (text : String) : Except Fault Value :=
  match current with
  | .boolean _ => .ok (.boolean (affirmations.contains (Text.toLower text)))
  | .whole _ => .whole <$> (Value.text text).toWhole
  | .real _ => .real <$> (Value.text text).toReal
  | .null => if key = "landing_angle_deg" then .real <$> (Value.text text).toReal else .ok (.text text)
  | _ => .ok (.text text)

def setVariable (s : Settings) (assignment : String × String) : Except Fault Settings :=
  match target? assignment.1 with
  | some (part, key) =>
    if s.has part key then do s.set part key (.ofValue (← convert key (s.get part key) assignment.2)) else .ok s
  | none => .ok s

def setVariables (s : Settings) (assignments : List (String × String)) : Except Fault Settings :=
  assignments.foldlM setVariable s

def readFile (files : FileTree) (path : String) : Except Fault Settings := do
  if !(← files.exists? (Path.ofText path).toText) then return {}
  let document ← Yaml.parse path (← Utf8.text (← files.read path))
  if document.isGiven then update {} document else return {}

/-- Without a path the program's own settings file counts, which gives every setting its default; so nothing is read. -/
def load (files : FileTree) (path : Option String) (assignments : List (String × String)) : Except Fault Settings := do
  let s ← match path with
    | some path => readFile files path
    | none => pure {}
  s.setVariables assignments

def render (s : Settings) : String :=
  Yaml.Writer.render (.mapping none (Section.all.map fun part => (.text part.name, .mapping none (s.fields part))))

def overridden (s : Settings) (overrides : Value) : Except Fault Entries :=
  let known := Section.vehicle.defaults.map fun (key, _) => (key, s.get .vehicle key)
  match overrides with
  | .null => .ok known
  | .mapping given => given.foldlM (fun values (key, value) =>
      if (Entries.get? known key).isSome then .ok (Entries.insert values key value)
      else .error (.badSetting s!"unknown vehicle setting '{key}'")) known
  | _ => .error (.badSetting "vehicle settings must be an object")

def airframeOf (v : Value) : Except Fault Airframe := do
  match v with
  | .text name => match Airframe.ofName? name with
    | some airframe => return airframe
    | none => throw (.unknownVehicle (← v.shown Value.literal))
  | _ => throw (.unknownVehicle (← v.shown Value.literal))

def vehicleWith (s : Settings) (home : Option Home) (overrides : Value) : Except Fault Vehicle := do
  let values ← s.overridden overrides
  let value (key : String) := (Entries.get? values key).getD .null
  let landed ← match value "landed" with
    | .boolean b => pure b
    | v => throw (.badSetting s!"vehicle setting 'landed' must be true or false, got {← v.shown Value.literal}")
  let airframe ← airframeOf (value "type")
  let acceptanceRadius ← (value "default_acceptance_radius").toReal
  let landingAngle ← match value "landing_angle_deg" with
    | .null => pure none
    | v => some <$> v.toReal
  let presence ← (value "takeoff_land_required").toWhole
  let actuatorLimit ← (value "max_actuator_value").toReal
  return { airframe, landed, home := home.getD .unknown, acceptanceRadius, landingAngle, presence, actuatorLimit }

def limits (s : Settings) : Limits :=
  { first := .ofValue (s.get .feasibility "max_distance_to_first_waypoint")
    between := .ofValue (s.get .feasibility "max_distance_between_waypoints") }

end Settings

end Preflight
