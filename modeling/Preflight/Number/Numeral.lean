import Preflight.Number.Double
import Preflight.Text.Letter

namespace Preflight.Numeral

open Preflight.Text

def foldScripts : List Char → List Char
  | [] => []
  | c :: cs =>
    if c.toNat < 127 then c :: foldScripts cs
    else if isBlank c then ' ' :: foldScripts cs
    else match digitValue? c with
      | some d => Char.ofNat ('0'.toNat + d) :: foldScripts cs
      | none => ['?']

def trim (cs : List Char) : List Char :=
  ((cs.dropWhile isAsciiBlank).reverse.dropWhile isAsciiBlank).reverse

def plainChars (s : String) : List Char :=
  let cs := s.toList
  trim (if cs.all (·.toNat < 128) then cs else foldScripts cs)

def dropUnderscores : Bool → List Char → Option (List Char)
  | _, [] => some []
  | afterDigit, '_' :: rest =>
    match rest with
    | c :: _ => if afterDigit && isAsciiDigit c then dropUnderscores false rest else none
    | [] => none
  | _, c :: rest => (dropUnderscores (isAsciiDigit c) rest).map (c :: ·)

def splitSign : List Char → Bool × List Char
  | '-' :: rest => (true, rest)
  | '+' :: rest => (false, rest)
  | cs => (false, cs)

def value (ds : List Char) : Nat := ds.foldl (fun n c => n * 10 + (c.toNat - '0'.toNat)) 0

structure Written where
  mantissa : Nat
  exponent : Int
  deriving DecidableEq, Repr

def Written.toDouble (negative : Bool) (w : Written) : Float :=
  let size : Int := (Nat.toDigits 10 w.mantissa).length + w.exponent
  if w.mantissa = 0 ∨ size < -400 then Double.nearest negative 0 1
  else if 400 < size then (if negative then -Double.infinity else Double.infinity)
  else if 0 ≤ w.exponent then Double.nearest negative (w.mantissa * tenTo w.exponent.toNat) 1
  else Double.nearest negative w.mantissa (tenTo (-w.exponent).toNat)

def readExponent : List Char → Option Int
  | [] => some 0
  | c :: rest =>
    if c = 'e' ∨ c = 'E' then
      let (negative, ds) := splitSign rest
      if ds.isEmpty || !ds.all isAsciiDigit then none else some (Double.signed negative (value ds))
    else none

def readWritten (cs : List Char) : Option Written := do
  let whole := cs.takeWhile isAsciiDigit
  let rest := cs.dropWhile isAsciiDigit
  let (fraction, rest) := match rest with
    | '.' :: more => (more.takeWhile isAsciiDigit, more.dropWhile isAsciiDigit)
    | _ => ([], rest)
  if whole.isEmpty && fraction.isEmpty then none
  else
    let exponent ← readExponent rest
    some ⟨value (whole ++ fraction), exponent - fraction.length⟩

def readMagnitude (negative : Bool) (cs : List Char) : Option Float :=
  match (String.ofList cs).toLower with
  | "inf" | "infinity" => some (if negative then -Double.infinity else Double.infinity)
  | "nan" => some Double.nan
  | _ => (readWritten cs).map (·.toDouble negative)

def readReal (s : String) : Option Float := do
  let cs ← dropUnderscores false (plainChars s)
  let (negative, rest) := splitSign cs
  readMagnitude negative rest

def digitLimit : Nat := 4300

def isLong (n : Int) : Bool := digitLimit < (Nat.toDigits 10 n.natAbs).length

theorem length_toDigits_le {m limit : Nat} (h : 0 < limit) :
    (Nat.toDigits 10 m).length ≤ limit ↔ m < tenTo limit :=
  Nat.length_toDigits_le_iff (by decide) h

theorem isLong_iff {n : Int} : isLong n = true ↔ tenTo digitLimit ≤ n.natAbs := by
  rw [isLong, decide_eq_true_iff, ← Nat.not_le, length_toDigits_le (by decide), Nat.not_lt]

inductive Reading where
  | value (n : Int)
  | tooLong (digits : Nat)
  | malformed
  deriving DecidableEq, Repr

def digitIn? (base : Nat) (c : Char) : Option Nat :=
  let d :=
    if isAsciiDigit c then c.toNat - '0'.toNat
    else if 'a' ≤ c && c ≤ 'z' then c.toNat - 'a'.toNat + 10
    else if 'A' ≤ c && c ≤ 'Z' then c.toNat - 'A'.toNat + 10
    else base
  if d < base then some d else none

def baseLetter : Nat → List Char
  | 2 => ['b', 'B']
  | 8 => ['o', 'O']
  | 16 => ['x', 'X']
  | _ => []

def dropBaseMark (base : Nat) (cs : List Char) : List Char :=
  match cs with
  | '0' :: letter :: rest =>
    if (baseLetter base).contains letter then
      match rest with
      | '_' :: more => more
      | rest => rest
    else cs
  | cs => cs

def hasDigitLimit (base : Nat) : Bool := base == 10

def digitsIn (base : Nat) : Bool → List Char → Option (List Nat)
  | _, [] => some []
  | afterDigit, c :: rest =>
    match digitIn? base c with
    | some d => (digitsIn base true rest).map (d :: ·)
    | none =>
      if c = '_' && afterDigit && (rest.head?.bind (digitIn? base)).isSome then digitsIn base false rest else none

def isDigitMark (base : Nat) (c : Char) : Bool := (digitIn? base c).isSome || c == '_'

def readWholeIn (base : Nat) (s : String) : Reading :=
  let (negative, cs) := splitSign (plainChars s)
  let cs := dropBaseMark base cs
  match digitsIn base false (cs.takeWhile (isDigitMark base)) with
  | none => .malformed
  | some ds =>
    if hasDigitLimit base && digitLimit < ds.length then .tooLong ds.length
    else if ds.isEmpty || !(cs.dropWhile (isDigitMark base)).isEmpty then .malformed
    else .value (Double.signed negative (ds.foldl (fun n d => n * base + d) 0))

end Preflight.Numeral
