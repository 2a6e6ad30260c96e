import Preflight.Files.Tree
import Preflight.Log.Format
import Preflight.Value.Access

namespace Preflight.Log

structure Journal where
  level : Int
  format : String := standardFormat
  file : Option String := none
  deriving DecidableEq, Repr

namespace Journal

def levelOfName (name : String) : Int :=
  match Text.toUpper name with
  | "DEBUG" => debug
  | "INFO" => info
  | "WARNING" => warning
  | "ERROR" => error
  | _ => info

def levelOf : Value → Except Fault Int
  | .text name => .ok (levelOfName name)
  | .whole n => .ok n
  | .boolean b => .ok (if b then 1 else 0)
  | v => do throw (.badLevel (← v.shown Value.literal))

def fileOf (v : Value) : Except Fault (Option String) :=
  if !v.isGiven then .ok none
  else match v with
    | .text path => .ok (some path)
    | .octets _ => .error .octetPath
    | v => .error (.notPath v.bareKind)

def formatOf (v : Value) : Except Fault String :=
  match v with
  | .null => .ok standardFormat
  | .text format => .ok (if format.isEmpty then bareFormat else format)
  | v => if v.isGiven then .error (.notText v.kind) else .ok bareFormat

def prepare (files : FileTree) (text : String) : Except Fault (String × FileTree) := do
  let files ← files.makeDirectories (Path.ofText text).parent
  let path := (Path.absolute files.workingDirectory text).toText
  return (path, ← files.append path [])

def openWith (files : FileTree) (level file format : Value) : Except Fault (Journal × FileTree) := do
  let format ← formatOf format
  if !isFormat format then throw (.badSetting s!"Invalid format '{format}' for '%' style")
  let level ← levelOf level
  match ← fileOf file with
  | none => return ({ level, format }, files)
  | some text =>
    let (path, files) ← prepare files text
    return ({ level, format, file := some path }, files)

def quietChannel : String := "werkzeug"

def isQuiet (channel : String) : Bool := channel == quietChannel || channel.startsWith (quietChannel ++ ".")

def admits (j : Journal) (line : Line) : Bool :=
  0 < line.level && j.level ≤ line.level && (!isQuiet line.channel || warning ≤ line.level)

def render (j : Journal) (stamp : String) (lines : List Line) : List String :=
  (lines.filter j.admits).filterMap (Log.render j.format stamp)

def ended (texts : List String) : String := String.join (texts.map (· ++ "\n"))

def write (j : Journal) (files : FileTree) (texts : List String) : Except Fault FileTree :=
  match j.file with
  | some path => if texts.isEmpty then .ok files else files.append path (Utf8.octets (ended texts))
  | none => .ok files

end Journal

end Preflight.Log
