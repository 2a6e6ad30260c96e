import Preflight.Diagnostic.Template
import Preflight.Log

namespace Preflight

inductive Severity where
  | error
  | warning
  | info
  deriving DecidableEq, Repr

namespace Severity

def name : Severity → String
  | error => "error"
  | warning => "warning"
  | info => "info"

def level : Severity → Int
  | error => Log.error
  | warning => Log.warning
  | info => Log.info

def ofName? : String → Option Severity
  | "error" => some error
  | "warning" => some warning
  | "info" => some info
  | _ => none

end Severity

structure Diagnostic where
  severity : Severity
  code : String
  template : String
  args : List Value := []
  /-- The number of the item, from one. -/
  item : Option Int := none

namespace Diagnostic

def message (d : Diagnostic) : Except Fault String := Template.render d.template d.args

def isViolation (d : Diagnostic) : Bool := d.severity != .warning

def toValue (d : Diagnostic) : Except Fault Value := do
  return .mapping [
    ("severity", .text d.severity.name),
    ("code", .text d.code),
    ("message", .text (← d.message)),
    ("item", match d.item with | some n => .whole n | none => .null)]

def toLine (d : Diagnostic) : Except Fault Log.Line := do
  return Log.line d.severity.level .events s!"[{d.code}] {← d.message}"

end Diagnostic

end Preflight
