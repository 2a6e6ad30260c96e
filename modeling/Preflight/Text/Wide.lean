namespace Preflight.Text.Surrogate

def isHigh (n : Nat) : Bool := 0xd800 ≤ n && n < 0xdc00
def isLow (n : Nat) : Bool := 0xdc00 ≤ n && n < 0xe000

def shift : Nat := 0x100000

def half? (c : Char) : Option Nat :=
  if 0x10d800 ≤ c.toNat && c.toNat < 0x10e000 then some (c.toNat - shift) else none

def codePoint (c : Char) : Nat := (half? c).getD c.toNat

def charOf (n : Nat) : Char := Char.ofNat (if isHigh n || isLow n then n + shift else n)

def join (high low : Nat) : Char := Char.ofNat (0x10000 + (high - 0xd800) * 1024 + (low - 0xdc00))

end Preflight.Text.Surrogate

namespace Preflight.Text.Wide

def groups (width : Nat) : Nat → List Nat → Option (List (List Nat))
  | _, [] => some []
  | 0, _ :: _ => none
  | fuel + 1, octets =>
    if octets.length < width then none
    else (groups width fuel (octets.drop width)).map (octets.take width :: ·)

def unit (highFirst : Bool) (octets : List Nat) : Nat :=
  (if highFirst then octets else octets.reverse).foldl (fun n b => n * 256 + b) 0

def joinPairs : List Nat → List Char
  | high :: low :: rest =>
    if Surrogate.isHigh high && Surrogate.isLow low then Surrogate.join high low :: joinPairs rest
    else Surrogate.charOf high :: joinPairs (low :: rest)
  | [n] => [Surrogate.charOf n]
  | [] => []

def decode (width : Nat) (highFirst : Bool) (octets : List Nat) : Option (List Char) := do
  let units := (← groups width octets.length octets).map (unit highFirst)
  if units.any (0x10ffff < ·) then none
  else if width = 2 then some (joinPairs units)
  else some (units.map Surrogate.charOf)

end Preflight.Text.Wide
