import Preflight.CommandLine
import Std.Time.Zoned

namespace Preflight.Shell

def placeOf (start : List String) (text : String) : List String :=
  let path := Path.ofText text
  path.names.foldl (fun place name => if name = ".." then place.dropLast else place ++ [name])
    (if path.isRooted then [] else start)

def pathsIn (fields : Entries) : List String :=
  fields.filterMap fun (key, value) =>
    match value with
    | .text s => if ["file", "config", "log_file"].contains key then some s else none
    | _ => none

def textOf (place : List String) : String := "/" ++ String.intercalate "/" place

def readNode (place : List String) : IO (Option Node) := do
  let path := (← IO.currentDir) / textOf place
  if ← path.isDir then return some .directory
  else if ← path.pathExists then return some (.file (← IO.FS.readBinFile path).toList)
  else return none

def readPlace (files : FileTree) (place : List String) : IO FileTree := do
  let mut files := files
  for depth in List.range place.length do
    let above := place.take (depth + 1)
    if let some node ← readNode above then files := files.put above node
  return files

def readPaths (files : FileTree) (paths : List String) : IO FileTree :=
  paths.foldlM (fun files text => readPlace files (placeOf files.workingDirectory text)) files

def writeChanges (before after : FileTree) : IO Unit := do
  for (place, node) in after.nodes.reverse do
    if before.node? place != some node then
      match node with
      | .directory => IO.FS.createDirAll (textOf place)
      | .file octets => IO.FS.writeBinFile (textOf place) (ByteArray.mk octets.toArray)

def variableNames : List String :=
  Section.all.flatMap fun part => part.defaults.map fun (key, _) =>
    Settings.variableStart ++ Text.toUpper s!"{part.name}_{key}"

def readVariables : IO (List (String × String)) :=
  variableNames.filterMapM fun name => do return (← IO.getEnv name).map (name, ·)

def digits (width : Nat) (n : Int) : String :=
  let text := toString n
  String.ofList (List.replicate (width - text.length) '0') ++ text

def stamp : IO String := do
  let now ← Std.Time.PlainDateTime.now
  let date := s!"{digits 4 now.year.toInt}-{digits 2 now.month.val}-{digits 2 now.day.val}"
  return s!"{date} {digits 2 now.hour.val}:{digits 2 now.minute.val}:{digits 2 now.second.val}"

def settledLogFile (files : FileTree) (fields : Entries) (assignments : List (String × String)) : List String :=
  let config := match Entries.get? fields "config" with
    | some (.text path) => some path
    | _ => none
  match Settings.load files config assignments with
  | .ok settings =>
    match settings.get .interface "log_file" with
    | .text path => [path]
    | _ => []
  | .error _ => []

def surroundings (fields : Entries) : IO CommandLine.Surroundings := do
  let start := placeOf [] (← IO.currentDir).toString
  let assignments ← readVariables
  let files ← readPlace { workingDirectory := start } start
  let files ← readPaths files (pathsIn fields)
  let files ← readPaths files (settledLogFile files fields assignments)
  return { files, assignments, home := ← IO.getEnv "HOME", terminal := ← (← IO.getStdout).isTty
           canServe := false, stamp := ← stamp }

def finish (before : FileTree) (run : CommandLine.Run) : IO UInt32 := do
  writeChanges before run.files
  IO.print run.output
  run.messages.forM IO.eprintln
  return UInt32.ofNat run.exit

def run (arguments : List String) : IO UInt32 := do
  match CommandLine.readMain arguments with
  | .error refusal =>
    let world ← surroundings []
    finish world.files (CommandLine.refused world refusal)
  | .ok fields =>
    let world ← surroundings fields
    match CommandLine.runMain world fields with
    | .ok result => finish world.files result
    | .error fault => do
      IO.eprintln fault.message
      return 1

end Preflight.Shell

def main (arguments : List String) : IO UInt32 := Preflight.Shell.run arguments
