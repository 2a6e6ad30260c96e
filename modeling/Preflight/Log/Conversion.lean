import Preflight.Number.Decimal
import Preflight.Value

namespace Preflight.Log

structure Conversion where
  left : Bool := false
  plus : Bool := false
  blank : Bool := false
  alternate : Bool := false
  zeros : Bool := false
  width : Nat := 0
  precision : Option Nat := none
  letter : Char
  deriving DecidableEq, Repr

namespace Conversion

def place (c : Conversion) (fillsZeros : Bool) (sign lead cs : List Char) : String :=
  let missing := c.width - (sign ++ lead ++ cs).length
  if c.left then String.ofList (sign ++ lead ++ cs ++ List.replicate missing ' ')
  else if fillsZeros then String.ofList (sign ++ lead ++ List.replicate missing '0' ++ cs)
  else String.ofList (List.replicate missing ' ' ++ sign ++ lead ++ cs)

def sign (c : Conversion) (negative : Bool) : List Char :=
  if negative then ['-'] else if c.plus then ['+'] else if c.blank then [' '] else []

def ofText (c : Conversion) (s : String) : String :=
  c.place false [] [] (match c.precision with
    | some n => s.toList.take n
    | none => s.toList)

def baseOf : Char → Nat × List Char
  | 'o' => (8, ['0', 'o'])
  | 'x' => (16, ['0', 'x'])
  | 'X' => (16, ['0', 'X'])
  | _ => (10, [])

def ofWhole (c : Conversion) (n : Int) : String :=
  let (base, mark) := baseOf c.letter
  let digits := Decimal.padded (c.precision.getD 0) (Nat.toDigits base n.natAbs)
  let digits := if c.letter = 'X' then digits.map Char.toUpper else digits
  c.place c.zeros (c.sign (n < 0)) (if c.alternate then mark else []) digits

def ofReal (c : Conversion) (x : Float) : String :=
  let places := c.precision.getD 6
  let text := match c.letter with
    | 'e' | 'E' => Decimal.scientific c.alternate places x
    | 'f' | 'F' => Decimal.fixed c.alternate places x
    | _ => Decimal.general { count := places, full := c.alternate } x
  let text := if c.letter.isUpper then text.toUpper else text
  match text.toList with
  | '-' :: cs => c.place c.zeros ['-'] [] cs
  | cs => c.place c.zeros (c.sign false) [] cs

def ofCodePoint (c : Conversion) (n : Int) : Option String :=
  if n < 0 || 0x10ffff < n then none else some (c.place false [] [] [Text.Surrogate.charOf n.toNat])

def ofNumber (c : Conversion) (n : Int) : Option String :=
  match c.letter with
  | 'd' | 'i' | 'u' | 'o' | 'x' | 'X' => some (c.ofWhole n)
  | 'e' | 'E' | 'f' | 'F' | 'g' | 'G' =>
    let x := Double.ofInt n
    if Double.isFinite x then some (c.ofReal x) else none
  | 'c' => c.ofCodePoint n
  | _ => none

def apply (c : Conversion) (v : Value) : Option String :=
  match c.letter, v with
  | 's', v => some (c.ofText v.display)
  | 'r', v => some (c.ofText v.literal)
  | 'a', v => some (c.ofText (Text.withinAscii v.literal))
  | 'c', .text s => if s.length = 1 then some (c.place false [] [] s.toList) else none
  | _, .whole n => c.ofNumber n
  | _, _ => none

def withFlag (c : Conversion) : Char → Option Conversion
  | '-' => some { c with left := true }
  | '+' => some { c with plus := true }
  | ' ' => some { c with blank := true }
  | '#' => some { c with alternate := true }
  | '0' => some { c with zeros := true }
  | _ => none

def readFlags (c : Conversion) : List Char → Conversion × List Char
  | [] => (c, [])
  | mark :: rest =>
    match c.withFlag mark with
    | some c => c.readFlags rest
    | none => (c, mark :: rest)

def digitsValue (ds : List Char) : Nat := ds.foldl (fun n d => n * 10 + (d.toNat - '0'.toNat)) 0

def sizeLetters : List Char := ['h', 'l', 'L']

def read (cs : List Char) : Option (Conversion × List Char) :=
  let (c, cs) := readFlags { letter := 's' } cs
  let width := cs.takeWhile Char.isDigit
  let cs := cs.drop width.length
  let (precision, cs) := match cs with
    | '.' :: rest =>
      let ds := rest.takeWhile Char.isDigit
      (some (digitsValue ds), rest.drop ds.length)
    | cs => (none, cs)
  let cs := match cs with
    | size :: rest => if sizeLetters.contains size then rest else size :: rest
    | [] => []
  match cs with
  | letter :: rest => some ({ c with width := digitsValue width, precision, letter }, rest)
  | [] => none

end Conversion

end Preflight.Log
