namespace Preflight.Utf8

inductive Reason where
  | invalidStart
  | invalidContinuation
  | unexpectedEnd
  deriving DecidableEq, Repr

/-- The octets `first ..< bound` are no character; `octet` is the first of them. -/
structure Flaw where
  reason : Reason
  first : Nat
  bound : Nat
  octet : Nat
  deriving DecidableEq, Repr

def isTail (b : Nat) : Bool := 0x80 ≤ b && b ≤ 0xbf

def announced (a : Nat) : Option Nat :=
  if a < 0x80 then some 1
  else if a < 0xc2 then none
  else if a < 0xe0 then some 2
  else if a < 0xf0 then some 3
  else if a < 0xf5 then some 4
  else none

def maySecond (a b : Nat) : Bool :=
  isTail b && (a != 0xe0 || 0xa0 ≤ b) && (a != 0xed || b < 0xa0) && (a != 0xf0 || 0x90 ≤ b) &&
    (a != 0xf4 || b < 0x90)

def codePoint (a : Nat) (tails : List Nat) : Nat :=
  let head := if a < 0xe0 then a % 0x20 else if a < 0xf0 then a % 0x10 else a % 0x08
  tails.foldl (fun n b => n * 64 + b % 64) (if tails.isEmpty then a else head)

def tailCount (a : Nat) (wanted : Nat) (rest : List Nat) : Nat :=
  match rest.take wanted with
  | [] => 0
  | b :: more => if maySecond a b then 1 + (more.takeWhile isTail).length else 0

def firstChar (offset : Nat) (a : Nat) (rest : List Nat) : Except Flaw (Char × Nat) :=
  match announced a with
  | none => .error ⟨.invalidStart, offset, offset + 1, a⟩
  | some width =>
    let found := tailCount a (width - 1) rest
    if found + 1 = width then .ok (Char.ofNat (codePoint a (rest.take found)), width)
    else if rest.length ≤ found then .error ⟨.unexpectedEnd, offset, offset + 1 + rest.length, a⟩
    else .error ⟨.invalidContinuation, offset, offset + 1 + found, a⟩

def decodeFrom : Nat → Nat → List Nat → Except Flaw (List Char)
  | 0, _, _ => .ok []
  | _ + 1, _, [] => .ok []
  | fuel + 1, offset, a :: rest => do
    let (c, width) ← firstChar offset a rest
    let cs ← decodeFrom fuel (offset + width) (rest.drop (width - 1))
    return c :: cs

def decode (octets : List Nat) : Except Flaw (List Char) := decodeFrom octets.length 0 octets

def repairFrom : Nat → List Nat → List Char
  | 0, _ => []
  | _ + 1, [] => []
  | fuel + 1, a :: rest =>
    match firstChar 0 a rest with
    | .ok (c, width) => c :: repairFrom fuel (rest.drop (width - 1))
    | .error flaw => '\ufffd' :: repairFrom fuel (rest.drop (flaw.bound - 1))

def repair (octets : List Nat) : List Char := repairFrom octets.length octets

def encodeChar (c : Char) : List Nat :=
  let n := c.toNat
  if n < 0x80 then [n]
  else if n < 0x800 then [0xc0 + n / 64, 0x80 + n % 64]
  else if n < 0x10000 then [0xe0 + n / 4096, 0x80 + n / 64 % 64, 0x80 + n % 64]
  else [0xf0 + n / 262144, 0x80 + n / 4096 % 64, 0x80 + n / 64 % 64, 0x80 + n % 64]

def encode (cs : List Char) : List Nat := cs.flatMap encodeChar

def unifyLineEnds : List Char → List Char
  | '\r' :: '\n' :: rest => '\n' :: unifyLineEnds rest
  | '\r' :: rest => '\n' :: unifyLineEnds rest
  | c :: rest => c :: unifyLineEnds rest
  | [] => []

def Reason.message : Reason → String
  | .invalidStart => "invalid start byte"
  | .invalidContinuation => "invalid continuation byte"
  | .unexpectedEnd => "unexpected end of data"

private def hexOctet (n : Nat) : String :=
  let ds := Nat.toDigits 16 n
  String.ofList (if ds.length < 2 then '0' :: ds else ds)

def Flaw.message (flaw : Flaw) : String :=
  "'utf-8' codec can't decode " ++
    (if flaw.bound = flaw.first + 1 then s!"byte 0x{hexOctet flaw.octet} in position {flaw.first}"
     else s!"bytes in position {flaw.first}-{flaw.bound - 1}") ++ ": " ++ flaw.reason.message

end Preflight.Utf8
