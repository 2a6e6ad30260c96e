import Preflight.Text.Quoted

namespace Preflight.Text.Base64

def alphabet : List Char := "ABCDEFGHIJKLMNOPQRSTUVWXYZabcdefghijklmnopqrstuvwxyz0123456789+/".toList

def fill : Char := '='

def value? (c : Char) : Option Nat := alphabet.idxOf? c

inductive Flaw where
  | single (count : Nat)
  | unfilled
  deriving DecidableEq, Repr

def Flaw.message : Flaw → String
  | single count => s!"Invalid base64-encoded string: number of data characters ({count}) cannot be 1 more than a " ++
      "multiple of 4"
  | unfilled => "Incorrect padding"

structure Group where
  size : Nat := 0
  bits : Nat := 0
  fills : Nat := 0

def decodeFrom (g : Group) (count : Nat) : List Char → Except Flaw (List UInt8)
  | [] =>
    match g.size with
    | 0 => .ok []
    | 1 => .error (.single (count / 3 * 4 + 1))
    | _ => .error .unfilled
  | c :: rest =>
    if c = fill then
      if 2 ≤ g.size then
        if 4 ≤ g.size + g.fills + 1 then .ok [] else decodeFrom { g with fills := g.fills + 1 } count rest
      else decodeFrom g count rest
    else match value? c with
      | none => decodeFrom g count rest
      | some v =>
        match g.size with
        | 0 => decodeFrom { size := 1, bits := v } count rest
        | 1 => do return UInt8.ofNat (g.bits * 4 + v / 16) :: (← decodeFrom { size := 2, bits := v % 16 } (count + 1) rest)
        | 2 => do return UInt8.ofNat (g.bits * 16 + v / 4) :: (← decodeFrom { size := 3, bits := v % 4 } (count + 1) rest)
        | _ => do return UInt8.ofNat (g.bits * 64 + v) :: (← decodeFrom {} (count + 1) rest)

def decode (cs : List Char) : Except Flaw (List UInt8) := decodeFrom {} 0 cs

def letter (n : Nat) : Char := alphabet.getD (n % 64) fill

def encode : List UInt8 → List Char
  | [] => []
  | [a] => [letter (a.toNat / 4), letter (a.toNat * 16), fill, fill]
  | [a, b] => [letter (a.toNat / 4), letter (a.toNat * 16 + b.toNat / 16), letter (b.toNat * 4), fill]
  | a :: b :: c :: rest =>
    letter (a.toNat / 4) :: letter (a.toNat % 4 * 16 + b.toNat / 16) :: letter (b.toNat % 16 * 4 + c.toNat / 64) ::
      letter c.toNat :: encode rest

def lineLength : Nat := 57

def linesFrom : Nat → List UInt8 → List Char
  | 0, _ => []
  | _ + 1, [] => []
  | fuel + 1, bytes => encode (bytes.take lineLength) ++ '\n' :: linesFrom fuel (bytes.drop lineLength)

def lines (bytes : List UInt8) : List Char := linesFrom bytes.length bytes

end Preflight.Text.Base64
