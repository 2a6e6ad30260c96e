import Preflight.Options
import Preflight.Vehicle

namespace Preflight.CommandLine

open Options

def help : Rule := { names := ["-h", "--help"], field := "help", shape := .help }

def one (names : List String) (field : String) (conversion : Conversion) : Rule :=
  { names, field, shape := .one conversion none }

def switch (names : List String) (field : String) : Rule :=
  { names, field, shape := .mark (.boolean true), absent := .boolean false }

def config : Rule := one ["-c", "--config"] "config" .text
def verbose : Rule := switch ["-v", "--verbose"] "verbose"
def logFile : Rule := one ["--log-file"] "log_file" .text
def host : Rule := one ["--host"] "host" .text
def port : Rule := one ["--port"] "port" .whole
def missionsDir : Rule := one ["--missions-dir"] "missions_dir" .text

def vehicle : Rule :=
  { names := ["--vehicle"], field := "vehicle"
    shape := .one .text (some (Airframe.all.map fun a => .text a.name)) }

def landed : Rule :=
  { names := ["--landed"], field := "landed", shape := .mark (.boolean true), excludes := ["--airborne"] }

def airborne : Rule :=
  { names := ["--airborne"], field := "landed", shape := .mark (.boolean false), excludes := ["--landed"] }

def require : Rule :=
  { names := ["--require"], field := "require"
    shape := .one .whole (some (Presence.all.map fun p => .whole p.number)) }

def checkRules : List Rule := [
  help, vehicle, landed, airborne, { names := ["--home"], field := "home", shape := .several 3 .real },
  one ["--landing-angle"] "landing_angle" .real, one ["--acceptance-radius"] "acceptance_radius" .real,
  one ["--max-first-wp-dist"] "max_first_wp_dist" .real, one ["--max-wp-dist"] "max_wp_dist" .real, require,
  switch ["--json"] "json", switch ["--no-color"] "no_color"]

def checkGrammar : Grammar := ⟨"mission-check check", checkRules, .single "file"⟩

def serveGrammar : Grammar := ⟨"mission-check serve", [help, host, port, missionsDir], .nothing⟩

def mainGrammar : Grammar :=
  ⟨"mission-check", [help, config, verbose, logFile], .command "command" ["check", "serve"]⟩

def serverGrammar : Grammar :=
  ⟨"mission-check-server", [help, config, port, host, missionsDir, verbose, logFile], .nothing⟩

def commandGrammar (name : String) : Grammar := if name = "serve" then serveGrammar else checkGrammar

def merge (fields more : Entries) : Entries := more.foldl (fun es e => Entries.insert es e.1 e.2) fields

def readMain (arguments : List String) : Except Refusal Entries := do
  let parsed ← mainGrammar.read arguments
  match parsed.command with
  | none => return parsed.fields
  | some (name, rest) =>
    let inner ← (commandGrammar name).read rest
    mainGrammar.refuseExtras (parsed.extras ++ inner.extras)
    return merge parsed.fields inner.fields

def readServer (arguments : List String) : Except Refusal Entries := do
  let parsed ← serverGrammar.read arguments
  serverGrammar.refuseExtras parsed.extras
  return parsed.fields

end Preflight.CommandLine
