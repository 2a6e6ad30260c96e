import Preflight.Fault
import Preflight.Number.Numeral

namespace Preflight.Value

/-- A value as messages about the data show it, by its literal or as it is displayed. A whole number beyond the digit
limit cannot be written. Diagnostics, log lines and options need no such guard: their numbers are positions, rounded
reals and codes of commands, and no JSON text gives one that is so long. -/
def shown (v : Value) (style : Value → String) : Except Fault String :=
  if v.holdsLong then .error .unwritable else .ok (style v)

def get? (v : Value) (key : String) : Except Fault (Option Value) :=
  match v with
  | mapping entries => .ok (Entries.get? entries key)
  | v => .error (.noOperation v.kind "get")

def getD (v : Value) (key : String) (default : Value) : Except Fault Value := do
  return (← v.get? key).getD default

def field (v : Value) (key : String) : Except Fault Value :=
  match v with
  | mapping entries =>
    match Entries.get? entries key with
    | some value => .ok value
    | none => .error (.missingKey key)
  | list _ => .error .listSubscript
  | text _ => .error .textSubscript
  | v => .error (.notSubscriptable v.kind)

def isText (s : String) : Value → Bool
  | text t => s == t
  | _ => false

def occursIn (inner : List Char) : List Char → Bool
  | [] => inner.isEmpty
  | c :: cs => inner.isPrefixOf (c :: cs) || occursIn inner cs

def holds (v : Value) (key : String) : Except Fault Bool :=
  match v with
  | mapping entries => .ok (Entries.get? entries key).isSome
  | list items => .ok (items.any (isText key))
  | text s => .ok (occursIn key.toList s.toList)
  | v => .error (.notSearchable v.kind)

def elements? : Value → Option (List Value)
  | list items => some items
  | text s => some (s.toList.map fun c => text (String.singleton c))
  | mapping entries => some (entries.map fun e => text e.1)
  | table entries => some (entries.map (·.1))
  | row items | set items => some items
  | _ => none

def elements (v : Value) : Except Fault (List Value) :=
  match v.elements? with
  | some items => .ok items
  | none => .error (.notIterable v.kind)

def pair (v : Value) : Except Fault (Value × Value) :=
  match v.elements? with
  | some [a, b] => .ok (a, b)
  | some items => .error (if items.length < 2 then .tooFewValues 2 items.length else .tooManyValues 2)
  | none => .error (.notUnpackable v.kind)

def realOfWhole (n : Int) : Except Fault Float :=
  let x := Double.ofInt n
  if Double.isFinite x then .ok x else .error .realOverflow

def textOfOctets (bytes : List UInt8) : String :=
  String.ofList (bytes.map fun b => if b.toNat < 128 then Char.ofNat b.toNat else '?')

def toReal : Value → Except Fault Float
  | real x => .ok x
  | whole n => realOfWhole n
  | boolean b => .ok (if b then 1.0 else 0.0)
  | text s => match Numeral.readReal s with
    | some x => .ok x
    | none => .error (.malformedReal (Text.quoted s))
  | octets bytes => match Numeral.readReal (textOfOctets bytes) with
    | some x => .ok x
    | none => .error (.malformedReal (Text.quotedOctets bytes))
  | v => .error (.notReal v.kind)

def wholeOfReal (w : Double.Whole) : Except Fault Int :=
  match w with
  | .value n => .ok n
  | .infinite => .error .wholeOfInfinite
  | .undefined => .error .wholeOfUndefined

def wholeOfText (base : Nat) (s shown : String) : Except Fault Int :=
  match Numeral.readWholeIn base s with
  | .value n => .ok n
  | .tooLong digits => .error (.tooManyDigits digits)
  | .malformed => .error (.malformedWhole base shown)

def toWhole : Value → Except Fault Int
  | whole n => .ok n
  | real x => wholeOfReal (Double.truncate x)
  | boolean b => .ok (if b then 1 else 0)
  | text s => wholeOfText 10 s (Text.quoted s)
  | octets bytes => wholeOfText 10 (textOfOctets bytes) (Text.quotedOctets bytes)
  | v => .error (.notWhole v.kind)

end Preflight.Value
