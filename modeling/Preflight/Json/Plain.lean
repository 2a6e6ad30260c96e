import Preflight.Json.Writer
import Preflight.Value.Order

namespace Preflight.Json

def checkWritable (n : Int) : Except Fault Unit := if Numeral.isLong n then .error .unwritable else .ok ()

def keyText : Value → Except Fault String
  | .text s => .ok s
  | .null => .ok "null"
  | .boolean b => .ok (if b then "true" else "false")
  | .whole n => do
    checkWritable n
    return toString n
  | .real x => .ok (real x)
  | v => .error (.notJsonKey v.kind)

def momentText (m : Moment) : Except Fault String :=
  match m.offset, m.toUniversal? with
  | none, _ => .ok m.mailText
  | some _, some m => .ok m.mailText
  | some _, none => .error (.outOfRange "date value out of range")

def members (entries : List (Value × Except Fault Value)) : Except Fault Entries := do
  let sorted ← Value.sortBy (fun a b => a.1.isBelow b.1) entries
  Entries.ofList <$> sorted.mapM fun (k, v) => do return (← keyText k, ← v)

mutual

def plain : Value → Except Fault Value
  | .null => .ok .null
  | .boolean b => .ok (.boolean b)
  | .whole n => do
    checkWritable n
    return .whole n
  | .real x => .ok (.real x)
  | .text s => .ok (.text s)
  | .list items | .row items => .list <$> plainItems items
  | .mapping entries => do return .mapping (← members (plainEntries entries))
  | .table entries => do return .mapping (← members (plainRows entries))
  | .date d => .ok (.text (Moment.atMidnight d).mailText)
  | .moment m => .text <$> momentText m
  | .around _ => .error .circular
  | .octets _ => .error (.notJson "bytes")
  | .set _ => .error (.notJson "set")

def plainItems : List Value → Except Fault (List Value)
  | [] => .ok []
  | v :: rest => do return (← plain v) :: (← plainItems rest)

def plainEntries : List (String × Value) → List (Value × Except Fault Value)
  | [] => []
  | (k, v) :: rest => (.text k, plain v) :: plainEntries rest

def plainRows : List (Value × Value) → List (Value × Except Fault Value)
  | [] => []
  | (k, v) :: rest => (k, plain v) :: plainRows rest

end

end Preflight.Json
