namespace Preflight

structure Pair where
  high : Float
  low : Float

namespace Pair

def ofFloat (x : Float) : Pair := ⟨x, 0.0⟩

def settled (sum rest : Float) : Pair :=
  let high := sum + rest
  ⟨high, rest + (sum - high)⟩

def lost (x y s : Float) : Float :=
  let y' := s - x
  (y - y') + (x - (s - y'))

def add (a b : Pair) : Pair :=
  let high := a.high + b.high
  let low := a.low + b.low
  let rest := lost a.high b.high high + low
  let sum := high + rest
  settled sum (lost a.low b.low low + (rest + (high - sum)))

def neg (a : Pair) : Pair := ⟨-a.high, -a.low⟩

def sub (a b : Pair) : Pair := a.add b.neg

def splitFactor : Float := 134217729.0

def leading (x : Float) : Float :=
  let scaled := splitFactor * x
  scaled - (scaled - x)

def mul (a b : Pair) : Pair :=
  let ah := leading a.high
  let al := a.high - ah
  let bh := leading b.high
  let bl := b.high - bh
  let high := a.high * b.high
  let rest := (((ah * bh - high) + ah * bl) + al * bh) + al * bl
  settled high (rest + (a.high * b.low + a.low * b.high))

def sign (a : Pair) : Int :=
  if a.high < 0.0 || (a.high == 0.0 && a.low < 0.0) then -1
  else if 0.0 < a.high || (a.high == 0.0 && 0.0 < a.low) then 1
  else 0

end Pair

end Preflight
