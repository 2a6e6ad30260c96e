import Preflight.Value

namespace Preflight.Json

inductive Layout where
  | line
  | indented (width : Nat)
  deriving DecidableEq, Repr

def unitEscape (n : Nat) : List Char := '\\' :: 'u' :: Text.hexDigits 4 n

def escapeChar (c : Char) : List Char :=
  if c = '"' ∨ c = '\\' then ['\\', c]
  else if c = '\n' then ['\\', 'n']
  else if c = '\r' then ['\\', 'r']
  else if c = '\t' then ['\\', 't']
  else if c = '\x0c' then ['\\', 'f']
  else if c = '\x08' then ['\\', 'b']
  else
    let n := Text.Surrogate.codePoint c
    if 32 ≤ n ∧ n < 127 then [c]
    else if n < 0x10000 then unitEscape n
    else unitEscape (0xd800 + (n - 0x10000) / 1024) ++ unitEscape (0xdc00 + (n - 0x10000) % 1024)

def string (s : String) : String := String.ofList ('"' :: s.toList.flatMap escapeChar ++ ['"'])

def real (x : Float) : String :=
  match Double.decode x with
  | .finite .. => Decimal.toText x
  | .infinite negative => if negative then "-Infinity" else "Infinity"
  | .undefined => "NaN"

def Layout.lead (layout : Layout) (level : Nat) : String :=
  match layout with
  | .line => ""
  | .indented width => String.ofList ('\n' :: List.replicate (width * level) ' ')

def Layout.comma (layout : Layout) (level : Nat) : String :=
  match layout with
  | .line => ", "
  | .indented _ => "," ++ layout.lead level

mutual

def render (layout : Layout) (level : Nat) : Value → String
  | .null => "null"
  | .boolean b => if b then "true" else "false"
  | .whole n => toString n
  | .real x => real x
  | .text s => string s
  | .list [] => "[]"
  | .list items =>
    "[" ++ layout.lead (level + 1) ++ renderItems layout (level + 1) items ++ layout.lead level ++ "]"
  | .mapping [] => "\x7b\x7d"
  | .mapping entries =>
    "\x7b" ++ layout.lead (level + 1) ++ renderMembers layout (level + 1) entries ++ layout.lead level ++ "\x7d"
  | _ => "null"

def renderItems (layout : Layout) (level : Nat) : List Value → String
  | [] => ""
  | [v] => render layout level v
  | v :: rest => render layout level v ++ layout.comma level ++ renderItems layout level rest

def renderMembers (layout : Layout) (level : Nat) : List (String × Value) → String
  | [] => ""
  | [(k, v)] => string k ++ ": " ++ render layout level v
  | (k, v) :: rest =>
    string k ++ ": " ++ render layout level v ++ layout.comma level ++ renderMembers layout level rest

end

def compact (v : Value) : String := render .line 0 v

def pretty (v : Value) : String := render (.indented 2) 0 v

end Preflight.Json
