import Preflight.Fault
import Preflight.Number.Numeral
import Preflight.Text.Utf8
import Preflight.Text.Wide

/-!
Reading JSON text. `parse` gives the value a text writes, or the fault with the place where the text stops being
JSON. Whole numbers are unbounded up to the digit limit, and the words `NaN`, `Infinity` and `-Infinity` are numbers.
-/
namespace Preflight.Json

open Preflight.Text (isAsciiDigit)

structure Cursor where
  offset : Nat
  rest : List Char
  deriving DecidableEq, Repr

inductive Flaw where
  | expected (reason : String) (offset : Nat)
  | tooManyDigits (digits : Nat)
  deriving DecidableEq, Repr

def isBlank (c : Char) : Bool := c == ' ' || c == '\t' || c == '\n' || c == '\r'

def Cursor.advance (c : Cursor) (n : Nat) : Cursor := ⟨c.offset + n, c.rest.drop n⟩

def Cursor.skipBlanks (c : Cursor) : Cursor := c.advance (c.rest.takeWhile isBlank).length

def fail {α : Type} (reason : String) (offset : Nat) : Except Flaw (α × Cursor) := .error (.expected reason offset)

def expectingValue : String := "Expecting value"
def expectingComma : String := "Expecting ',' delimiter"
def expectingColon : String := "Expecting ':' delimiter"
def expectingName : String := "Expecting property name enclosed in double quotes"
def badEscape : String := "Invalid \\escape"
def badUnicode : String := "Invalid \\uXXXX escape"

def hexValue? (c : Char) : Option Nat :=
  if '0' ≤ c ∧ c ≤ '9' then some (c.toNat - 48)
  else if 'a' ≤ c ∧ c ≤ 'f' then some (c.toNat - 87)
  else if 'A' ≤ c ∧ c ≤ 'F' then some (c.toNat - 55)
  else none

def readUnit? (cs : List Char) : Option Nat :=
  match cs with
  | a :: b :: c :: d :: _ => do
    return ((← hexValue? a) * 16 + (← hexValue? b)) * 256 + (← hexValue? c) * 16 + (← hexValue? d)
  | _ => none

def shortEscape? : Char → Option Char
  | '"' => some '"'
  | '\\' => some '\\'
  | '/' => some '/'
  | 'b' => some '\x08'
  | 'f' => some '\x0c'
  | 'n' => some '\n'
  | 'r' => some '\r'
  | 't' => some '\t'
  | _ => none

def readUnicode (c : Cursor) : Except Flaw (Char × Cursor) :=
  let digits := c.rest.drop 1
  if (digits.drop 4).isEmpty then fail badUnicode c.offset
  else match readUnit? digits with
    | none => fail badUnicode c.offset
    | some high =>
      match Text.Surrogate.isHigh high, digits.drop 4 with
      | true, '\\' :: 'u' :: more =>
        if (more.drop 4).isEmpty then .ok (Text.Surrogate.charOf high, c.advance 5)
        else match readUnit? more with
          | none => fail badUnicode (c.offset + 6)
          | some low =>
            if Text.Surrogate.isLow low then
              .ok (Text.Surrogate.join high low, c.advance 11)
            else .ok (Text.Surrogate.charOf high, c.advance 5)
      | _, _ => .ok (Text.Surrogate.charOf high, c.advance 5)

def readString (start : Nat) : Nat → Cursor → List Char → Except Flaw (String × Cursor)
  | 0, _, _ => fail "Unterminated string starting at" start
  | fuel + 1, c, done =>
    match c.rest with
    | [] => fail "Unterminated string starting at" start
    | '"' :: _ => .ok (String.ofList done.reverse, c.advance 1)
    | '\\' :: [] => fail "Unterminated string starting at" start
    | '\\' :: 'u' :: _ => do
      let (ch, c) ← readUnicode (c.advance 1)
      readString start fuel c (ch :: done)
    | '\\' :: e :: _ =>
      match shortEscape? e with
      | some ch => readString start fuel (c.advance 2) (ch :: done)
      | none => fail badEscape c.offset
    | ch :: rest =>
      if ch.toNat < 32 then fail "Invalid control character at" c.offset
      else readString start fuel ⟨c.offset + 1, rest⟩ (ch :: done)

def leadingDigits : List Char → List Char
  | '0' :: _ => ['0']
  | cs => cs.takeWhile isAsciiDigit

def fractionDigits : List Char → List Char
  | '.' :: cs => cs.takeWhile isAsciiDigit
  | _ => []

def exponentPart : List Char → Option (Nat × Int)
  | [] => none
  | e :: cs =>
    if e = 'e' ∨ e = 'E' then
      let (negative, ds) := Numeral.splitSign cs
      let digits := ds.takeWhile isAsciiDigit
      if digits.isEmpty then none
      else some (1 + (cs.length - ds.length) + digits.length, Double.signed negative (Numeral.value digits))
    else none

def readNumber (c : Cursor) : Except Flaw (Value × Cursor) :=
  let (negative, cs) := match c.rest with
    | '-' :: cs => (true, cs)
    | cs => (false, cs)
  let sign := if negative then 1 else 0
  let whole := leadingDigits cs
  if whole.isEmpty then fail expectingValue c.offset
  else
    let fraction := fractionDigits (cs.drop whole.length)
    let point := if fraction.isEmpty then 0 else fraction.length + 1
    let used := sign + whole.length + point
    match exponentPart (c.rest.drop used) with
    | some (width, e) =>
      let written : Numeral.Written := ⟨Numeral.value (whole ++ fraction), e - fraction.length⟩
      .ok (.real (written.toDouble negative), c.advance (used + width))
    | none =>
      if fraction.isEmpty then
        if Numeral.digitLimit < whole.length then .error (.tooManyDigits whole.length)
        else .ok (.whole (Double.signed negative (Numeral.value whole)), c.advance used)
      else
        let written : Numeral.Written := ⟨Numeral.value (whole ++ fraction), -(fraction.length : Int)⟩
        .ok (.real (written.toDouble negative), c.advance used)

def words : List (String × Value) :=
  [("null", .null), ("true", .boolean true), ("false", .boolean false), ("NaN", .real Double.nan),
    ("Infinity", .real Double.infinity), ("-Infinity", .real (-Double.infinity))]

def readAtom (c : Cursor) : Except Flaw (Value × Cursor) :=
  match words.find? fun w => w.1.toList.isPrefixOf c.rest with
  | some (w, v) => .ok (v, c.advance w.length)
  | none => readNumber c

mutual

/-- A value. The fuel is twice the length of what is left, or more; a character is read at every other step. -/
def readValue : Nat → Cursor → Except Flaw (Value × Cursor)
  | 0, c => fail expectingValue c.offset
  | fuel + 1, c =>
    match c.rest with
    | '"' :: rest => do
      let (s, c) ← readString c.offset fuel ⟨c.offset + 1, rest⟩ []
      return (.text s, c)
    | '[' :: _ =>
      let c := (c.advance 1).skipBlanks
      if c.rest.head? = some ']' then .ok (.list [], c.advance 1) else readItems fuel c []
    | '\x7b' :: _ =>
      let c := (c.advance 1).skipBlanks
      if c.rest.head? = some '\x7d' then .ok (.mapping [], c.advance 1) else readMembers fuel c []
    | _ => readAtom c

def readItems : Nat → Cursor → List Value → Except Flaw (Value × Cursor)
  | 0, c, _ => fail expectingValue c.offset
  | fuel + 1, c, done => do
    let (v, c) ← readValue fuel c
    let c := c.skipBlanks
    match c.rest with
    | ']' :: _ => .ok (.list (v :: done).reverse, c.advance 1)
    | ',' :: _ => readItems fuel (c.advance 1).skipBlanks (v :: done)
    | _ => fail expectingComma c.offset

def readMembers : Nat → Cursor → List (String × Value) → Except Flaw (Value × Cursor)
  | 0, c, _ => fail expectingName c.offset
  | fuel + 1, c, done =>
    match c.rest with
    | '"' :: rest => do
      let (key, c) ← readString c.offset fuel ⟨c.offset + 1, rest⟩ []
      let c := c.skipBlanks
      match c.rest with
      | ':' :: _ => do
        let (v, c) ← readValue fuel (c.advance 1).skipBlanks
        let c := c.skipBlanks
        match c.rest with
        | '\x7d' :: _ => .ok (.mapping (Entries.ofList ((key, v) :: done).reverse), c.advance 1)
        | ',' :: _ => readMembers fuel (c.advance 1).skipBlanks ((key, v) :: done)
        | _ => fail expectingComma c.offset
      | _ => fail expectingColon c.offset
    | _ => fail expectingName c.offset

end

def placeOf (text : List Char) (offset : Nat) : Place :=
  let before := text.take offset
  ⟨before.count '\n' + 1, (before.reverse.takeWhile (· != '\n')).length + 1, offset⟩

def readDocument (text : List Char) : Except Flaw Value := do
  if text.head? = some '\ufeff' then
    throw (.expected "Unexpected UTF-8 BOM (decode using utf-8-sig)" 0)
  let (v, c) ← readValue (2 * text.length + 2) (Cursor.mk 0 text).skipBlanks
  let c := c.skipBlanks
  if c.rest.isEmpty then return v else throw (.expected "Extra data" c.offset)

def Flaw.toFault (text : List Char) : Flaw → Fault
  | .expected reason offset => .malformedJson reason (placeOf text offset)
  | .tooManyDigits digits => .tooManyDigits digits

def parse (text : List Char) : Except Fault Value := (readDocument text).mapError (Flaw.toFault text)

inductive Encoding where
  | utf8
  | wide (width : Nat) (highFirst : Bool)
  deriving DecidableEq, Repr

def encodingMarks : List (List Nat × Encoding) := [
  ([0, 0, 0xfe, 0xff], .wide 4 true), ([0xff, 0xfe, 0, 0], .wide 4 false), ([0xfe, 0xff], .wide 2 true),
  ([0xff, 0xfe], .wide 2 false), ([0xef, 0xbb, 0xbf], .utf8)]

def Encoding.ofZeros : List Nat → Encoding
  | 0 :: b :: _ :: _ :: _ => if b = 0 then .wide 4 true else .wide 2 true
  | _ :: 0 :: c :: d :: _ => if c = 0 && d = 0 then .wide 4 false else .wide 2 false
  | [0, _] => .wide 2 true
  | [_, 0] => .wide 2 false
  | _ => .utf8

def Encoding.detect (octets : List Nat) : Encoding × List Nat :=
  match encodingMarks.find? fun e => e.1.isPrefixOf octets with
  | some (mark, encoding) => (encoding, octets.drop mark.length)
  | none => (Encoding.ofZeros octets, octets)

def Encoding.decode (e : Encoding) (octets : List Nat) : Option (List Char) :=
  match e with
  | utf8 => (Utf8.decode octets).toOption
  | wide width highFirst => Text.Wide.decode width highFirst octets

def ofOctets? (octets : List Nat) : Option Value := do
  let (encoding, octets) := Encoding.detect octets
  (parse (← encoding.decode octets)).toOption

end Preflight.Json
