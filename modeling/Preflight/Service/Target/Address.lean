import Preflight.Service.Target.Flaw

namespace Preflight.Target

def cutAt (mark : Char) (cs : List Char) : List (List Char) := cs.splitOnP (· == mark)

def isAsciiDigit (c : Char) : Bool := '0' ≤ c && c ≤ '9'

def isHexDigit (c : Char) : Bool := isAsciiDigit c || ('a' ≤ c && c ≤ 'f') || ('A' ≤ c && c ≤ 'F')

def decimalValue (ds : List Char) : Nat := ds.foldl (fun n c => n * 10 + (c.toNat - '0'.toNat)) 0

def isShortNumber (ds : List Char) : Bool :=
  !ds.isEmpty && ds.all isAsciiDigit && ds.length ≤ 3 && (ds == ['0'] || ds.head? != some '0') && decimalValue ds ≤ 255

def isShortAddress (cs : List Char) : Bool :=
  let numbers := cutAt '.' cs
  numbers.length == 4 && numbers.all isShortNumber

def isGroup (ds : List Char) : Bool := !ds.isEmpty && ds.length ≤ 4 && ds.all isHexDigit

def groupsOf (cs : List Char) : Option (List (List Char)) :=
  let parts := cutAt ':' cs
  match parts.getLast? with
  | some last =>
    if last.contains '.' then
      if isShortAddress last then some (parts.dropLast ++ [['0'], ['0']]) else none
    else some parts
  | none => none

def aroundRun (parts : List (List Char)) : Option (List (List Char) × List (List Char)) :=
  let inner := (parts.drop 1).dropLast
  match (inner.filter List.isEmpty).length with
  | 0 => none
  | 1 =>
    let before := parts.take (1 + (inner.takeWhile (!·.isEmpty)).length)
    let after := parts.drop (before.length + 1)
    let head := if before.head? == some [] then before.drop 1 else before
    let last := if after.getLast? == some [] then after.dropLast else after
    if (before.head? == some [] && !head.isEmpty) || (after.getLast? == some [] && !last.isEmpty) then none
    else some (head, last)
  | _ => none

def areGroups (parts : List (List Char)) : Bool :=
  if parts.length < 3 || 9 < parts.length then false
  else match aroundRun parts with
    | some (before, after) => before.length + after.length < 8 && (before ++ after).all isGroup
    | none => parts.length == 8 && parts.all isGroup

def isLongAddress (cs : List Char) : Bool :=
  let address := cs.takeWhile (· != '%')
  let zone := cs.drop address.length
  (zone.isEmpty || (1 < zone.length && !(zone.drop 1).contains '%')) && (groupsOf address).any areGroups

def isLaterAddress : List Char → Bool
  | 'v' :: rest =>
    let version := rest.takeWhile isHexDigit
    match rest.drop version.length with
    | '.' :: more => !version.isEmpty && !more.isEmpty
    | _ => false
  | _ => false

def checkBracketed (cs : List Char) : Except Flaw Unit :=
  if cs.head? == some 'v' then (if isLaterAddress cs then .ok () else .error .laterAddress)
  else if isShortAddress cs then .error .shortAddress
  else if isLongAddress cs then .ok ()
  else .error (.noAddress (String.ofList cs))

end Preflight.Target
