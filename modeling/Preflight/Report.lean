import Preflight.Pass

namespace Preflight.Report

inductive Color where
  | bold
  | red
  | green
  | yellow
  | cyan
  deriving DecidableEq, Repr

def Color.number : Color → Nat
  | bold => 1
  | red => 91
  | green => 92
  | yellow => 93
  | cyan => 96

def paint (colors : Bool) (color : Color) (text : String) : String :=
  if colors then s!"\x1b[{color.number}m{text}\x1b[0m" else text

def colorOf : Severity → Color
  | .error => .red
  | .warning => .yellow
  | .info => .cyan

def padded (width : Nat) (text : String) : String :=
  text ++ String.ofList (List.replicate (width - text.length) ' ')

def whereText : Option Int → String
  | some item => "item " ++ padded 3 (toString item)
  | none => padded 8 ""

def line (colors : Bool) (d : Diagnostic) : Except Fault String := do
  let label := paint colors (colorOf d.severity) (padded 7 d.severity.name.toUpper)
  return s!"  {label} {whereText d.item} {← d.message}  [{d.code}]"

def verdictLine (colors : Bool) (v : Verdict) : String :=
  if v.accepted then paint colors .green (if v.warning then "ACCEPTED with warnings" else "ACCEPTED")
  else paint colors .red s!"REJECTED ({v.violations.length} violation(s))"

def ended (lines : List String) : String := String.join (lines.map (· ++ "\n"))

def render (colors : Bool) (path : String) (count : Int) (v : Verdict) : Except Fault String := do
  let heading := paint colors .bold s!"Mission {path} ({count} items)"
  let lines ← v.diagnostics.mapM (line colors)
  return ended ([heading] ++ lines ++ [verdictLine colors v])

end Preflight.Report
