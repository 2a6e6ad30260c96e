import Preflight.Service.Target.Flaw
import Preflight.Text.Alphanumeric
import Preflight.Text.Letter
import Preflight.Text.LowerCase

namespace Preflight.Target

def isAscii (c : Char) : Bool := c.toNat < 128

def isDot (c : Char) : Bool := ['.', '\u3002', '\uff0e', '\uff61'].contains c

/-! The characters of a label -/

def isLeftOut (c : Char) : Bool :=
  let n := c.toNat
  [0xad, 0x34f, 0x1806, 0x2060, 0xfeff].contains n || (0x180b ≤ n && n ≤ 0x180d) || (0x200b ≤ n && n ≤ 0x200d) ||
    (0xfe00 ≤ n && n ≤ 0xfe0f)

def folded (c : Char) : List Char :=
  if c = '\u00df' || c = '\u1e9e' then ['s', 's']
  else if c = '\u017f' then ['s']
  else if c = '\u03c2' then ['\u03c3']
  else if c = '\u0130' then ['i', '\u0307']
  else [Text.smallLetter c]

def usualForm (c : Char) : Char :=
  let n := c.toNat
  if 0xff01 ≤ n ∧ n ≤ 0xff5e then Char.ofNat (n - 0xfee0)
  else if n ≠ 0x1680 ∧ n ≠ 0x2028 ∧ n ≠ 0x2029 ∧ n ≠ 0x85 ∧ 128 ≤ n ∧ Text.isBlank c then ' '
  else c

def barred : List (Nat × Nat) := [
  (0x80, 0x9f), (0x6dd, 0x6dd), (0x70f, 0x70f), (0x1680, 0x1680), (0x180e, 0x180e), (0x200e, 0x200f), (0x2028, 0x2029),
  (0x202a, 0x202e), (0x2061, 0x2063), (0x206a, 0x206f), (0x2ff0, 0x2ffb), (0xe000, 0xf8ff), (0xfdd0, 0xfdef),
  (0xfff9, 0xffff), (0x1d173, 0x1d17a), (0xe0001, 0xe0001), (0xe0020, 0xe007f), (0xf0000, 0x10ffff)]

def isBarred (c : Char) : Bool :=
  let n := c.toNat
  0xfffe ≤ n % 0x10000 || barred.any fun (first, last) => first ≤ n && n ≤ last

def leftward : List (Nat × Nat) := [
  (0x5be, 0x5be), (0x5c0, 0x5c0), (0x5c3, 0x5c3), (0x5d0, 0x5ea), (0x5f0, 0x5f4), (0x61b, 0x61b), (0x61f, 0x61f),
  (0x621, 0x63a), (0x640, 0x64a), (0x66d, 0x66f), (0x671, 0x6d5), (0x6e5, 0x6e6), (0x6fa, 0x6fe), (0x700, 0x70d),
  (0x710, 0x710), (0x712, 0x72c), (0x780, 0x7a5), (0x7b1, 0x7b1), (0xfb1d, 0xfb1d), (0xfb1f, 0xfb28), (0xfb2a, 0xfb36),
  (0xfb38, 0xfb3c), (0xfb3e, 0xfb3e), (0xfb40, 0xfb41), (0xfb43, 0xfb44), (0xfb46, 0xfbb1), (0xfbd3, 0xfd3d),
  (0xfd50, 0xfd8f), (0xfd92, 0xfdc7), (0xfdf0, 0xfdfc), (0xfe70, 0xfe74), (0xfe76, 0xfefc)]

def isLeftward (c : Char) : Bool :=
  let n := c.toNat
  leftward.any fun (first, last) => first ≤ n && n ≤ last

def isRightward (c : Char) : Bool := Text.isAlphanumeric c && !isLeftward c && (Text.digitValue? c).isNone

def prepare (label : List Char) : Except LabelFlaw (List Char) := do
  let cs := ((label.filter (!isLeftOut ·)).flatMap folded).map usualForm
  match cs.find? isBarred with
  | some c => throw (.character c)
  | none =>
    if cs.any isLeftward then
      if cs.any isRightward then throw (.direction 2)
      if !(cs.head?.any isLeftward && cs.getLast?.any isLeftward) then throw (.direction 3)
    return cs

/-! Writing a label in ASCII -/

def base : Nat := 36

def digitOf (n : Nat) : Char := Char.ofNat (if n < 26 then 'a'.toNat + n else '0'.toNat + (n - 26))

def threshold (bias place : Nat) : Nat := min 26 (max 1 (place - bias))

theorem one_le_threshold (bias place : Nat) : 1 ≤ threshold bias place := by
  unfold threshold
  omega

def distanceDigits (bias place n : Nat) : List Char :=
  let t := threshold bias place
  if n < t then [digitOf n]
  else digitOf (t + (n - t) % (base - t)) :: distanceDigits bias (place + base) ((n - t) / (base - t))
termination_by n
decreasing_by
  have := one_le_threshold bias place
  exact Nat.lt_of_le_of_lt (Nat.div_le_self ..) (by omega)

def shrink (distance count : Nat) : Nat × Nat :=
  if 455 < distance then shrink (distance / 35) (count + base) else (distance, count)
termination_by distance
decreasing_by exact Nat.div_lt_self (by omega) (by omega)

def biasAfter (distance written : Nat) (isFirst : Bool) : Nat :=
  let distance := if isFirst then distance / 700 else distance / 2
  let (small, count) := shrink (distance + distance / written) 0
  count + 36 * small / (small + 38)

structure Written where
  digits : List Char := []
  count : Nat
  distance : Nat := 0
  bias : Nat := 72
  isFirst : Bool := true

def Written.step (n : Nat) (w : Written) (c : Char) : Written :=
  if c.toNat < n then { w with distance := w.distance + 1 }
  else if c.toNat = n then
    { digits := w.digits ++ distanceDigits w.bias base w.distance
      count := w.count + 1
      bias := biasAfter w.distance (w.count + 1) w.isFirst
      isFirst := false }
  else w

def writeNumbers (label : List Char) (least : Nat) (w : Written) : List Nat → Written
  | [] => w
  | n :: rest =>
    let w := label.foldl (Written.step n) { w with distance := w.distance + (n - least) * (w.count + 1) }
    writeNumbers label (n + 1) { w with distance := w.distance + 1 } rest

def inAscii (label : List Char) : List Char :=
  let plain := label.filter isAscii
  let numbers := ((label.filter (!isAscii ·)).map Char.toNat).mergeSort.eraseDups
  (if plain.isEmpty then [] else plain ++ ['-']) ++ (writeNumbers label 128 { count := plain.length } numbers).digits

def asciiMark : List Char := "xn--".toList

def longestLabel : Nat := 63

def checkLength (label : List Char) : Except LabelFlaw (List Char) :=
  if label.isEmpty || longestLabel < label.length then .error .length else .ok label

def encodeLabel (label : List Char) : Except LabelFlaw (List Char) := do
  if label.all isAscii then checkLength label
  else
    let label ← prepare label
    if label.all isAscii then checkLength label
    else if asciiMark.isPrefixOf label then throw .marked
    else checkLength (asciiMark ++ inAscii label)

def checkAsciiLabels (labels : List (List Char)) : Except LabelFlaw Unit := do
  labels.dropLast.forM fun label => (fun _ => ()) <$> checkLength label
  if longestLabel < (labels.getLast?.getD []).length then throw .tooLong

def encodeName (name : List Char) : Except LabelFlaw (List Char) := do
  let labels := name.splitOnP isDot
  if name.all isAscii then
    checkAsciiLabels labels
    return name
  else if labels.getLast? = some [] then
    return List.intercalate ['.'] (← labels.dropLast.mapM encodeLabel) ++ ['.']
  else return List.intercalate ['.'] (← labels.mapM encodeLabel)

end Preflight.Target
