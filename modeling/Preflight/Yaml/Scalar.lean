import Preflight.Text.LowerCase
import Preflight.Value.Access
import Preflight.Yaml.Tag

namespace Preflight.Yaml

def withoutUnderscores (s : String) : List Char := s.toList.filter (· != '_')

def wholeIn (base : Nat) (cs : List Char) : Except Fault Int :=
  Value.wholeOfText base (String.ofList cs) (String.ofList (Text.quotedChars cs))

def sumSixtieths : List Int → Int
  | [] => 0
  | n :: rest => n + 60 * sumSixtieths rest

def wholeMagnitude (cs : List Char) : Except Fault Int :=
  match cs with
  | ['0'] => .ok 0
  | '0' :: 'b' :: ds => wholeIn 2 ds
  | '0' :: 'x' :: ds => wholeIn 16 ds
  | '0' :: _ => wholeIn 8 cs
  | [] => .error .beyondText
  | _ =>
    if cs.contains ':' then do
      let parts ← (cs.splitOn ':').mapM (wholeIn 10)
      return sumSixtieths parts.reverse
    else wholeIn 10 cs

def wholeOf (s : String) : Except Fault Int :=
  let cs := withoutUnderscores s
  if cs.isEmpty then .error .beyondText
  else
    let (negative, magnitude) := Numeral.splitSign cs
    return (if negative then -1 else 1) * (← wholeMagnitude magnitude)

def realIn (cs : List Char) : Except Fault Float := (Value.text (String.ofList cs)).toReal

def sumRealSixtieths (total : Float) (unit : Nat) : List Float → Except Fault Float
  | [] => .ok total
  | x :: rest => do sumRealSixtieths (total + x * (← Value.realOfWhole unit)) (unit * 60) rest

def realMagnitude (cs : List Char) : Except Fault Float :=
  if String.ofList cs = ".inf" then .ok Double.infinity
  else if cs.contains ':' then do
    let parts ← (cs.splitOn ':').mapM realIn
    sumRealSixtieths 0.0 1 parts.reverse
  else realIn cs

def realOf (s : String) : Except Fault Float :=
  let cs := Text.lowered [] (withoutUnderscores s)
  if cs.isEmpty then .error .beyondText
  else
    let (negative, magnitude) := Numeral.splitSign cs
    if String.ofList magnitude = ".nan" then .ok Double.nan
    else return (if negative then -1.0 else 1.0) * (← realMagnitude magnitude)

def truths : List (String × Bool) :=
  [("yes", true), ("no", false), ("true", true), ("false", false), ("on", true), ("off", false)]

def truthOf (s : String) : Except Fault Bool :=
  let word := Text.toLowerCase s
  match truths.lookup word with
  | some b => .ok b
  | none => .error (.missingKey word)

def numberOf (ds : List Char) : Nat := Numeral.value ds

def microsOf (fraction : List Char) : Nat :=
  let ds := fraction.take 6
  numberOf (ds ++ List.replicate (6 - ds.length) '0')

def zoneMinutes (zone : Bool × List Char × List Char) : Int :=
  let minutes : Int := numberOf zone.2.1 * 60 + numberOf zone.2.2
  if zone.1 then -minutes else minutes

namespace Stamp

def dateOf (s : Stamp) : Except Calendar.Flaw Date :=
  Date.ofNumbers (numberOf s.year) (numberOf s.month) (numberOf s.day)

def toValue (s : Stamp) : Except Calendar.Flaw Value := do
  match s.time with
  | none => return .date (← s.dateOf)
  | some (hour, minute, second, fraction) =>
    let offset ← s.zone.mapM fun zone => Moment.checkOffset (zoneMinutes zone)
    return .moment (← Moment.ofNumbers (← s.dateOf) (numberOf hour) (numberOf minute) (numberOf second)
      (microsOf fraction) offset)

end Stamp

def stampOf (s : String) : Except Fault Value :=
  match Stamp.read? (withoutLineEnd s.toList) with
  | some stamp => stamp.toValue.mapError .calendar
  | none => .error (.noOperation "NoneType" "groupdict")

end Preflight.Yaml
