import Preflight.Number.Numeral
import Preflight.Text.Quoted

namespace Preflight.Yaml

inductive Tag where
  | null
  | boolean
  | whole
  | real
  | octets
  | stamp
  | orderedMap
  | pairs
  | set
  | text
  | sequence
  | mapping
  | merge
  | value
  | other (name : String)
  deriving DecidableEq, Repr, Inhabited

namespace Tag

def home : String := "tag:yaml.org,2002:"

def known : List (String × Tag) := [
  ("null", null), ("bool", boolean), ("int", whole), ("float", real), ("binary", octets), ("timestamp", stamp),
  ("omap", orderedMap), ("pairs", pairs), ("set", set), ("str", text), ("seq", sequence), ("map", mapping),
  ("merge", merge), ("value", value)]

def ofName (name : String) : Tag :=
  (known.lookup (String.ofList (name.toList.drop home.length))).elim (other name) fun tag =>
    if name.startsWith home then tag else other name

def shortName (tag : Tag) : String := ((known.find? (·.2 == tag)).map (·.1)).getD ""

def name : Tag → String
  | other name => name
  | tag => home ++ tag.shortName

end Tag

/-! The forms of plain scalars -/

def trueWords : List String := ["yes", "Yes", "YES", "true", "True", "TRUE", "on", "On", "ON"]
def falseWords : List String := ["no", "No", "NO", "false", "False", "FALSE", "off", "Off", "OFF"]
def nullWords : List String := ["", "~", "null", "Null", "NULL"]

def isDigitIn (base : Nat) (c : Char) : Bool := (Numeral.digitIn? base c).isSome

def isDigits (base : Nat) (cs : List Char) : Bool := cs.all fun c => c == '_' || isDigitIn base c

def isSixtieth : List Char → Bool
  | [a] => a.isDigit
  | [a, b] => '0' ≤ a && a ≤ '5' && b.isDigit
  | _ => false

def startsWithDigit : List Char → Bool
  | c :: _ => c.isDigit
  | [] => false

def isWholeMagnitude : List Char → Bool
  | ['0'] => true
  | '0' :: 'b' :: ds => !ds.isEmpty && isDigits 2 ds
  | '0' :: 'x' :: ds => !ds.isEmpty && isDigits 16 ds
  | '0' :: ds => isDigits 8 ds
  | cs =>
    startsWithDigit cs && match cs.splitOn ':' with
      | first :: rest => isDigits 10 first && rest.all isSixtieth
      | [] => false

def isWhole (cs : List Char) : Bool := isWholeMagnitude (Numeral.splitSign cs).2

def isExponent : List Char → Bool
  | [] => true
  | e :: sign :: ds => (e == 'e' || e == 'E') && (sign == '+' || sign == '-') && !ds.isEmpty && ds.all Char.isDigit
  | _ => false

def isDigitOrUnderscore (c : Char) : Bool := c.isDigit || c == '_'

def isPointed (cs : List Char) : Bool :=
  let magnitude := (Numeral.splitSign cs).2
  match magnitude.dropWhile isDigitOrUnderscore with
  | '.' :: rest =>
    isExponent (rest.dropWhile isDigitOrUnderscore) &&
      (startsWithDigit magnitude || (cs.head? == some '.' && startsWithDigit rest))
  | _ => false

def isPointedSixtieths (cs : List Char) : Bool :=
  match ((Numeral.splitSign cs).2.splitOn ':').reverse with
  | last :: rest =>
    let tail := last.takeWhile (· != '.')
    let fraction := last.drop tail.length
    let first := rest.getLast?.getD []
    startsWithDigit first && isDigits 10 first && rest.dropLast.all isSixtieth && isSixtieth tail &&
      fraction.head? == some '.' && isDigits 10 (fraction.drop 1)
  | [] => false

def isReal (cs : List Char) : Bool :=
  isPointed cs || isPointedSixtieths cs ||
    [".inf", ".Inf", ".INF"].contains (String.ofList (Numeral.splitSign cs).2) ||
    [".nan", ".NaN", ".NAN"].contains (String.ofList cs)

structure Stamp where
  year : List Char
  month : List Char
  day : List Char
  time : Option (List Char × List Char × List Char × List Char) := none
  zone : Option (Bool × List Char × List Char) := none
  deriving DecidableEq, Repr

namespace Stamp

def digits (least most : Nat) (cs : List Char) : Option (List Char × List Char) :=
  let ds := (cs.take most).takeWhile Char.isDigit
  if ds.length < least then none else some (ds, cs.drop ds.length)

def after (c : Char) : List Char → Option (List Char)
  | x :: rest => if x = c then some rest else none
  | [] => none

def zoneOf (cs : List Char) : Option (Option (Bool × List Char × List Char)) :=
  if cs.isEmpty then some none
  else match cs.dropWhile fun c => c == ' ' || c == '\t' with
    | ['Z'] => some (some (false, ['0'], []))
    | sign :: rest => do
      if sign ≠ '+' ∧ sign ≠ '-' then failure
      let (hours, rest) ← digits 1 2 rest
      if rest.isEmpty then return some (sign = '-', hours, [])
      let (minutes, rest) ← digits 2 2 (← after ':' rest)
      if rest.isEmpty then return some (sign = '-', hours, minutes) else failure
    | [] => none

def afterSeparator : List Char → Option (List Char)
  | [] => none
  | c :: rest =>
    if c = 'T' ∨ c = 't' then some rest
    else if c = ' ' ∨ c = '\t' then some (rest.dropWhile fun c => c == ' ' || c == '\t')
    else none

def read? (cs : List Char) : Option Stamp := do
  let (year, rest) ← digits 4 4 cs
  let (month, rest) ← digits 1 2 (← after '-' rest)
  let (day, rest) ← digits 1 2 (← after '-' rest)
  if rest.isEmpty then return { year, month, day }
  let (hour, rest) ← digits 1 2 (← afterSeparator rest)
  let (minute, rest) ← digits 2 2 (← after ':' rest)
  let (second, rest) ← digits 2 2 (← after ':' rest)
  let (fraction, rest) := match rest with
    | '.' :: rest => (rest.takeWhile Char.isDigit, rest.dropWhile Char.isDigit)
    | rest => ([], rest)
  return { year, month, day, time := some (hour, minute, second, fraction), zone := ← zoneOf rest }

def isPlain (s : Stamp) : Bool := s.time.isSome || (s.month.length == 2 && s.day.length == 2)

end Stamp

def withoutLineEnd (cs : List Char) : List Char := if cs.getLast? = some '\n' then cs.dropLast else cs

def markWords : List String := ["!", "&", "*"]

def Tag.ofPlain (text : String) : Tag :=
  let cs := withoutLineEnd text.toList
  let word := String.ofList cs
  if trueWords.contains word || falseWords.contains word then boolean
  else if isReal cs then real
  else if isWhole cs then whole
  else if word = "<<" then merge
  else if nullWords.contains word && text != "\n" then null
  else if (Stamp.read? cs).any Stamp.isPlain then stamp
  else if word = "=" then value
  else if markWords.contains word then other (home ++ "yaml")
  else .text

end Preflight.Yaml
