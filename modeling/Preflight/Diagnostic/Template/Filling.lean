import Preflight.Diagnostic.Template.Spec
import Preflight.Value

namespace Preflight.Template

def checkWidth (spec : Spec) : Except Fault Unit :=
  if Spec.largestWidth < spec.width then .error .tooLong else .ok ()

def formatText (spec : Spec) (s : String) : Except Fault String := do
  if spec.form != some 's' then unknownForm (spec.form.getD 's') "str"
  if spec.sign == some ' ' then malformed "Space not allowed in string format specifier"
  if spec.sign.isSome then malformed "Sign not allowed in string format specifier"
  if spec.plainZero then malformed "Negative zero coercion (z) not allowed in string format specifier"
  if spec.alternate then malformed "Alternate form (#) not allowed in string format specifier"
  if spec.align = .afterSign then malformed "'=' alignment not allowed in string format specifier"
  checkWidth spec
  let cs := match spec.precision with
    | some n => s.toList.take n
    | none => s.toList
  return String.ofList (spec.pad cs)

def largestPrecision : Nat := 2147483647

def realText (spec : Spec) (form : Option Char) (x : Float) : String :=
  let places := spec.precision.getD 6
  match form with
  | none =>
    match spec.precision with
    | none => Decimal.toTextIn { Decimal.plain with pointed := spec.alternate } x
    | some count => Decimal.general { count, full := spec.alternate, fractional := true } x
  | some 'e' | some 'E' => Decimal.scientific spec.alternate places x
  | some 'f' | some 'F' | some '%' => Decimal.fixed spec.alternate places x
  | some _ => Decimal.general { count := places, full := spec.alternate } x

def isZeroText (cs : List Char) : Bool := cs.all fun c => c == '0' || c == '.' || c == 'e' || c == '+'

def realForms : List Char := ['e', 'E', 'f', 'F', 'g', 'G', 'n', '%']

def capitalForms : List Char := ['E', 'F', 'G']

def formatReal (spec : Spec) (kind : String) (x : Float) : Except Fault String := do
  match spec.form with
  | some form => if !realForms.contains form then unknownForm form kind
  | none => pure ()
  if spec.precision.any (largestPrecision < ·) then malformed "precision too big"
  checkWidth spec
  let text := realText spec spec.form (if spec.form == some '%' then x * 100.0 else x)
  let text := if spec.form.any capitalForms.contains then text.toUpper else text
  let (negative, cs) := match text.toList with
    | '-' :: rest => (!(spec.plainZero && isZeroText (rest.map Char.toLower)), rest)
    | cs => (false, cs)
  let digits := cs.takeWhile Char.isDigit
  let rest := cs.drop digits.length ++ (if spec.form == some '%' then ['%'] else [])
  return String.ofList (spec.place { negative, digits, rest })

def baseOf : Option Char → Nat × List Char
  | some 'b' => (2, ['0', 'b'])
  | some 'o' => (8, ['0', 'o'])
  | some 'x' => (16, ['0', 'x'])
  | some 'X' => (16, ['0', 'X'])
  | _ => (10, [])

def characterOf (spec : Spec) (n : Int) : Except Fault Figure := do
  if spec.sign.isSome then malformed "Sign not allowed with integer format specifier 'c'"
  if spec.alternate then malformed "Alternate form (#) not allowed with integer format specifier 'c'"
  if (largestNumber : Int) < n || n < -(largestNumber : Int) - 1 then
    throw (.outOfRange "Python int too large to convert to C long")
  if n < 0 || 0x10ffff < n then throw (.outOfRange "%c arg not in range(0x110000)")
  return { negative := false, digits := [], rest := [Text.Surrogate.charOf n.toNat] }

def wholeForms : List Char := ['b', 'c', 'd', 'o', 'x', 'X', 'n']

def formatWhole (spec : Spec) (kind : String) (n : Int) : Except Fault String := do
  let form := spec.form.getD 'd'
  if !wholeForms.contains form then
    if realForms.contains form then
      let x := Double.ofInt n
      if Double.isFinite x then return ← formatReal spec kind x else throw .realOverflow
    else unknownForm form kind
  if spec.precision.isSome then malformed "Precision not allowed in integer format specifier"
  if spec.plainZero then malformed "Negative zero coercion (z) not allowed in integer format specifier"
  checkWidth spec
  if form = 'c' then return String.ofList (spec.place (← characterOf spec n))
  let (base, mark) := baseOf spec.form
  let digits := Nat.toDigits base n.natAbs
  return String.ofList (spec.place {
    negative := n < 0, lead := if spec.alternate then mark else []
    digits := if form = 'X' then digits.map Char.toUpper else digits })

def format (v : Value) (cs : List Char) : Except Fault String :=
  if cs.isEmpty then .ok v.display
  else match v with
    | .text s => do formatText (← Spec.read "str" .left (some 's') cs) s
    | .whole n => do formatWhole (← Spec.read "int" .right (some 'd') cs) "int" n
    | .boolean b => do formatWhole (← Spec.read "bool" .right (some 'd') cs) "bool" (if b then 1 else 0)
    | .real x => do formatReal (← Spec.read "float" .right none cs) "float" x
    | v => .error (.unformattable v.kind)

end Preflight.Template
