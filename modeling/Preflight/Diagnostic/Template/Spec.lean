import Preflight.Fault
import Preflight.Text.Letter

namespace Preflight.Template

inductive Align where
  | left
  | right
  | center
  | afterSign
  deriving DecidableEq, Repr

structure Spec where
  fill : Char := ' '
  align : Align
  sign : Option Char := none
  plainZero : Bool := false
  alternate : Bool := false
  width : Nat := 0
  separator : Option Char := none
  precision : Option Nat := none
  form : Option Char := none
  deriving DecidableEq, Repr

def align? : Char → Option Align
  | '<' => some .left
  | '>' => some .right
  | '^' => some .center
  | '=' => some .afterSign
  | _ => none

def malformed {α : Type} (reason : String) : Except Fault α := .error (.malformedTemplate reason)

def largestNumber : Nat := 9223372036854775807

def readNumber (value : Option Nat) : List Char → Except Fault (Option Nat × List Char)
  | [] => .ok (value, [])
  | c :: rest =>
    match Text.digitValue? c with
    | none => .ok (value, c :: rest)
    | some d =>
      let n := value.getD 0 * 10 + d
      if largestNumber < n then malformed "Too many decimal digits in format string" else readNumber (some n) rest

def shown (last : Nat) (c : Char) : String :=
  let n := Text.Surrogate.codePoint c
  if 32 < n && n < last then String.singleton c
  else String.ofList ('\\' :: 'x' :: Text.hexDigits 0 n)

def unknownForm {α : Type} (form : Char) (kind : String) : Except Fault α :=
  malformed s!"Unknown format code '{shown 128 form}' for object of type '{kind}'"

def takeMark (mark : Char) : List Char → Bool × List Char
  | c :: rest => if c = mark then (true, rest) else (false, c :: rest)
  | [] => (false, [])

def splitAlign : List Char → Option Char × Option Align × List Char
  | a :: b :: rest =>
    match align? b, align? a with
    | some align, _ => (some a, some align, rest)
    | none, some align => (none, some align, b :: rest)
    | none, none => (none, none, a :: b :: rest)
  | [a] =>
    match align? a with
    | some align => (none, some align, [])
    | none => (none, none, [a])
  | [] => (none, none, [])

def isSign (c : Char) : Bool := c == '+' || c == '-' || c == ' '

def splitSeparator (cs : List Char) : Except Fault (Option Char × List Char) := do
  let (comma, cs) := takeMark ',' cs
  let (line, cs) := takeMark '_' cs
  if line && (comma || cs.head? == some ',') then malformed "Cannot specify both ',' and '_'."
  return (if comma then some ',' else if line then some '_' else none, cs)

def splitPrecision : List Char → Except Fault (Option Nat × List Char)
  | '.' :: rest => do
    match ← readNumber none rest with
    | (none, _) => malformed "Format specifier missing precision"
    | read => return read
  | cs => .ok (none, cs)

def groupedForms : List Char := ['d', 'e', 'f', 'g', 'E', 'G', '%', 'F']

def binaryForms : List Char := ['b', 'o', 'x', 'X']

def checkSeparator (separator form : Option Char) : Except Fault Unit :=
  match separator, form with
  | some mark, some form =>
    if groupedForms.contains form || (mark == '_' && binaryForms.contains form) then .ok ()
    else malformed s!"Cannot specify '{mark}' with '{shown 128 form}'."
  | _, _ => .ok ()

namespace Spec

def read (kind : String) (align : Align) (form : Option Char) (text : List Char) : Except Fault Spec := do
  let (fill, given, cs) := splitAlign text
  let (sign, cs) := match cs with
    | c :: rest => if isSign c then (some c, rest) else (none, cs)
    | [] => (none, cs)
  let (plainZero, cs) := takeMark 'z' cs
  let (alternate, cs) := takeMark '#' cs
  let (zero, cs) := if fill.isSome then (false, cs) else takeMark '0' cs
  let (width, cs) ← readNumber none cs
  let (separator, cs) ← splitSeparator cs
  let (precision, cs) ← splitPrecision cs
  let form ← match cs with
    | [] => pure form
    | [c] => pure (some c)
    | _ => malformed s!"Invalid format specifier '{String.ofList text}' for object of type '{kind}'"
  checkSeparator separator form
  return {
    fill := fill.getD (if zero then '0' else ' ')
    align := given.getD (if zero && align == .right then .afterSign else align)
    sign, plainZero, alternate, width := width.getD 0, separator, precision, form }

def largestWidth : Nat := 2147483647

def fillers (spec : Spec) (count : Nat) : List Char := List.replicate count spec.fill

def pad (spec : Spec) (cs : List Char) : List Char :=
  let missing := spec.width - cs.length
  match spec.align with
  | .left => cs ++ spec.fillers missing
  | .center => spec.fillers (missing / 2) ++ cs ++ spec.fillers (missing - missing / 2)
  | .right | .afterSign => spec.fillers missing ++ cs

end Spec

structure Figure where
  negative : Bool
  lead : List Char := []
  digits : List Char
  rest : List Char := []
  deriving DecidableEq, Repr

def groupsFrom (size : Nat) (separator : Char) : Nat → Nat → List Char → List Char
  | 0, _, ds => ds
  | fuel + 1, least, ds =>
    let count := min size (max (max ds.length least) 1)
    let group := ds.take count ++ List.replicate (count - ds.length) '0'
    let rest := ds.drop count
    if rest.isEmpty && least ≤ count then group
    else group ++ separator :: groupsFrom size separator fuel (least - count - 1) rest

namespace Spec

def groupSize (spec : Spec) : Nat := if spec.form.any binaryForms.contains then 4 else 3

def grouped (spec : Spec) (least : Nat) (ds : List Char) : List Char :=
  match spec.separator with
  | none => List.replicate (least - ds.length) '0' ++ ds
  | some mark => (groupsFrom spec.groupSize mark (least + ds.length) least ds.reverse).reverse

def signOf (spec : Spec) (negative : Bool) : List Char :=
  if negative then ['-']
  else match spec.sign with
    | some '+' => ['+']
    | some ' ' => [' ']
    | _ => []

def place (spec : Spec) (n : Figure) : List Char :=
  let sign := spec.signOf n.negative
  let least :=
    if spec.fill == '0' && spec.align == .afterSign then spec.width - (sign ++ n.lead ++ n.rest).length else 0
  let number := (if n.digits.isEmpty then [] else spec.grouped least n.digits) ++ n.rest
  match spec.align with
  | .afterSign => sign ++ n.lead ++ spec.fillers (spec.width - (sign ++ n.lead ++ number).length) ++ number
  | _ => spec.pad (sign ++ n.lead ++ number)

end Spec

end Preflight.Template
