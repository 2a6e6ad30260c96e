import Preflight.Checker
import Preflight.CommandLine.Grammar
import Preflight.Document.Plan
import Preflight.Log.Journal
import Preflight.Report
import Preflight.Settings
import Preflight.Store.Directory

namespace Preflight.CommandLine

structure Surroundings where
  files : FileTree
  assignments : List (String × String) := []
  home : Option String := none
  terminal : Bool := false
  canServe : Bool := true
  stamp : String := ""

structure Served where
  host : Value
  port : Value
  directory : String

structure Run where
  exit : Nat
  output : String := ""
  messages : List String := []
  served : List Served := []
  files : FileTree

def accepted : Nat := 0
def rejected : Nat := 1
def notChecked : Nat := 2

structure Started where
  surroundings : Surroundings
  journal : Log.Journal
  settings : Settings
  fields : Entries

namespace Started

def field (s : Started) (name : String) : Value := (Entries.get? s.fields name).getD .null

def finish (s : Started) (exit : Nat) (log : List Log.Line) (messages : List String) (output : String) :
    Except Fault Run := do
  let texts := s.journal.render s.surroundings.stamp log
  return { exit, output, messages := texts ++ messages, files := ← s.journal.write s.surroundings.files texts }

def colors (s : Started) : Bool :=
  !((s.field "no_color").isGiven || (s.field "json").isGiven) && s.surroundings.terminal

def refuse (s : Started) (log : List Log.Line) (reason : String) : Except Fault Run :=
  s.finish notChecked log [Report.paint s.colors .red s!"Error: {reason}"] ""

def home (s : Started) (d : Document) : Except Fault (Option Home) := do
  match s.field "home" with
  | .list [lat, lon, altitude] => return some (.ofNumbers (← lat.toReal) (← lon.toReal) (← altitude.toReal))
  | _ => return d.home

def overridingOptions : List (String × String) := [
  ("vehicle", "type"), ("landed", "landed"), ("landing_angle", "landing_angle_deg"),
  ("acceptance_radius", "default_acceptance_radius"), ("require", "takeoff_land_required")]

def isNull : Value → Bool
  | .null => true
  | _ => false

def overrides (s : Started) : Value :=
  .mapping (overridingOptions.filterMap fun (option, key) =>
    let v := s.field option
    if isNull v then none else some (key, v))

def limits (s : Started) : Limits :=
  let own (name : String) (other : Limit) : Limit := if isNull (s.field name) then other else .ofValue (s.field name)
  { first := own "max_first_wp_dist" s.settings.limits.first
    between := own "max_wp_dist" s.settings.limits.between }

def shown (s : Started) (path : String) (d : Document) (v : Verdict) : Except Fault String := do
  if (s.field "json").isGiven then return Json.pretty (← v.toValue) ++ "\n"
  else Report.render s.colors path d.items.length v

def checkDocument (s : Started) (path : String) (d : Document) (log : List Log.Line) : Except Fault Run := do
  let home ← s.home d
  match s.settings.vehicleWith home s.overrides with
  | .error fault => if fault.group = .value then s.refuse log fault.message else throw fault
  | .ok vehicle =>
    let (answer, _) := checkItems {} d.items vehicle d.fence s.limits
    let verdict ← answer.verdict
    let output ← s.shown path d verdict
    s.finish (if verdict.accepted then accepted else rejected) (log ++ answer.log) [] output

def check (s : Started) : Except Fault Run := do
  let text := (s.field "file").display
  let path := Path.ofText text
  match Document.load s.surroundings.files path with
  | .error (.invalid reason) => s.refuse [] reason
  | .error fault => throw fault
  | .ok d => s.checkDocument text d (Document.loadNotes path d)

def defaultDirectory : String := "~/.mischeck/missions"

def serve (s : Started) (log : List Log.Line) : Except Fault Run := do
  if !s.surroundings.canServe then
    s.finish 1 (log ++ [Log.line Log.warning .service "Flask not installed - REST API disabled",
      Log.line Log.error .server "REST API not available, install the 'full' extra"]) [] ""
  else
    let named := s.field "missions_dir"
    let text := if named.isGiven then named.display else defaultDirectory
    let store ← DirectoryStore.openAt s.surroundings.files text s.surroundings.home
    let setting (option key : String) : Value :=
      if (s.field option).isGiven then s.field option else s.settings.get .interface key
    let s' := { s with surroundings := { s.surroundings with files := store.files } }
    let run ← s'.finish 0 (log ++ store.openNotes ++ [Log.line Log.info .server "Shutting down..."]) [] ""
    return { run with
      served := [⟨setting "host" "rest_host", setting "port" "rest_port", store.directory.toText⟩] }

end Started

def start (world : Surroundings) (fields : Entries) : Except Fault Started := do
  let field (name : String) : Value := (Entries.get? fields name).getD .null
  let path := match field "config" with
    | .text path => some path
    | _ => none
  let settings ← Settings.load world.files path world.assignments
  let file := if (field "log_file").isGiven then field "log_file" else settings.get .interface "log_file"
  let level := if (field "verbose").isGiven then .whole Log.debug else settings.get .interface "log_level"
  let (journal, files) ← Log.Journal.openWith world.files level file .null
  return { surroundings := { world with files }, journal, settings, fields }

def refused (world : Surroundings) : Options.Refusal → Run
  | .usage program reason =>
    { exit := 2, messages := [(Options.Refusal.usage program reason).message], files := world.files }
  | .help program => { exit := 0, output := s!"usage: {program}\n", files := world.files }

def runMain (world : Surroundings) (fields : Entries) : Except Fault Run := do
  let s ← start world fields
  if (s.field "command").isText "serve" then s.serve [] else s.check

def runServer (world : Surroundings) (fields : Entries) : Except Fault Run := do
  let s ← start world fields
  s.serve [Log.line Log.info .server "Mission Feasibility Server starting..."]

end Preflight.CommandLine
