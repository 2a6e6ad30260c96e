import Preflight.Text.Printable
import Preflight.Text.Wide

namespace Preflight.Text

def hexDigits (width n : Nat) : List Char :=
  let ds := Nat.toDigits 16 n
  List.replicate (width - ds.length) '0' ++ ds

def quoteFor (cs : List Char) : Char := if cs.contains '\'' && !cs.contains '"' then '"' else '\''

def numbered (n : Nat) : List Char :=
  if n < 0x100 then '\\' :: 'x' :: hexDigits 2 n
  else if n < 0x10000 then '\\' :: 'u' :: hexDigits 4 n
  else '\\' :: 'U' :: hexDigits 8 n

def escapedWith (shows : Char → Bool) (quote c : Char) : List Char :=
  if c = quote ∨ c = '\\' then ['\\', c]
  else if c = '\n' then ['\\', 'n']
  else if c = '\r' then ['\\', 'r']
  else if c = '\t' then ['\\', 't']
  else if shows c then [c]
  else numbered (Surrogate.codePoint c)

def quotedWith (shows : Char → Bool) (cs : List Char) : List Char :=
  let quote := quoteFor cs
  quote :: cs.flatMap (escapedWith shows quote) ++ [quote]

def quotedChars (cs : List Char) : List Char := quotedWith isPrintable cs

def quoted (s : String) : String := String.ofList (quotedChars s.toList)

def isPlainAscii (c : Char) : Bool := ' ' ≤ c && c ≤ '~'

def withinAscii (s : String) : String :=
  String.ofList (s.toList.flatMap fun c => if c.toNat < 128 then [c] else numbered (Surrogate.codePoint c))

def quotedOctets (bytes : List UInt8) : String :=
  String.ofList ('b' :: quotedWith isPlainAscii (bytes.map fun b => Char.ofNat b.toNat))

end Preflight.Text
