import Preflight.Fault
import Preflight.Files.Path
import Preflight.Json.Reader
import Preflight.Service.Target.Address
import Preflight.Service.Target.Label

namespace Preflight.Target

structure Parts where
  scheme : List Char := []
  authority : List Char := []
  path : List Char := []
  query : List Char := []
  deriving DecidableEq, Repr

def isSchemeLetter (c : Char) : Bool := ('a' ≤ c && c ≤ 'z') || ('A' ≤ c && c ≤ 'Z')

def isSchemeChar (c : Char) : Bool := isSchemeLetter c || isAsciiDigit c || c == '+' || c == '-' || c == '.'

def splitScheme (cs : List Char) : List Char × List Char :=
  let scheme := cs.takeWhile isSchemeChar
  match cs.drop scheme.length with
  | ':' :: rest => if scheme.head?.any isSchemeLetter then (scheme.map Char.toLower, rest) else ([], cs)
  | _ => ([], cs)

def endsAuthority (c : Char) : Bool := c == '/' || c == '?' || c == '#'

def splitAuthority : List Char → List Char × List Char
  | '/' :: '/' :: rest =>
    let authority := rest.takeWhile (!endsAuthority ·)
    (authority, rest.drop authority.length)
  | cs => ([], cs)

def markLikes : List Nat := [
  0x2047, 0x2048, 0x2049, 0x2100, 0x2101, 0x2105, 0x2106, 0x2a74, 0xfe13, 0xfe16, 0xfe55, 0xfe56, 0xfe5f, 0xfe6b,
  0xff03, 0xff0f, 0xff1a, 0xff1f, 0xff20]

def checkBrackets (authority : List Char) : Except Flaw Unit :=
  match authority.contains '[', authority.contains ']' with
  | false, false => .ok ()
  | true, true =>
    checkBracketed (((authority.dropWhile (· != '[')).drop 1).takeWhile (· != ']'))
  | _, _ => .error .brackets

def checkLetters (authority : List Char) : Except Flaw Unit :=
  if authority.any fun c => markLikes.contains c.toNat then .error (.letters (String.ofList authority)) else .ok ()

def isBreak (c : Char) : Bool := c == '\t' || c == '\n' || c == '\r'

def split (target : List Char) : Except Flaw Parts := do
  let cs := (target.dropWhile fun c => c.toNat ≤ 32).filter (!isBreak ·)
  let (scheme, rest) := splitScheme cs
  let (authority, rest) := splitAuthority rest
  checkBrackets authority
  let rest := rest.takeWhile (· != '#')
  let path := rest.takeWhile (· != '?')
  checkLetters authority
  return { scheme, authority, path, query := rest.drop (path.length + 1) }

structure Host where
  user : List Char
  name : List Char
  port : List Char
  deriving DecidableEq, Repr

def cutAtLast (mark : Char) (cs : List Char) : List Char × List Char :=
  let after := (cs.reverse.takeWhile (· != mark)).reverse
  (cs.take (cs.length - after.length - 1), after)

def lowerName (cs : List Char) : List Char :=
  let name := cs.takeWhile (· != '%')
  name.map Char.toLower ++ cs.drop name.length

def Host.ofAuthority (authority : List Char) : Host :=
  let (user, place) := cutAtLast '@' authority
  match place.dropWhile (· != '[') with
  | _ :: bracketed =>
    let name := bracketed.takeWhile (· != ']')
    { user, name := lowerName name, port := ((bracketed.drop name.length).dropWhile (· != ':')).drop 1 }
  | [] =>
    let name := place.takeWhile (· != ':')
    { user, name := lowerName name, port := place.drop (name.length + 1) }

def Host.portNumber (h : Host) : Except Flaw Nat :=
  if h.port.isEmpty then .ok 0
  else if !h.port.all isAsciiDigit then .error (.port (String.ofList h.port))
  else if 65535 < decimalValue h.port then .error .portRange
  else .ok (decimalValue h.port)

def Host.render (h : Host) : Except Flaw (List Char) := do
  let name ← (encodeName h.name).mapError Flaw.label
  let port ← h.portNumber
  return (if h.user.isEmpty then [] else h.user ++ ['@']) ++
    (if name.contains ':' then '[' :: name ++ [']'] else name) ++
    (if port = 0 then [] else ':' :: (toString port).toList)

def Parts.render (p : Parts) : Except Flaw (List Char) := do
  let host ← (Host.ofAuthority p.authority).render
  let rest := if host.isEmpty then p.path else '/' :: '/' :: host ++ p.path
  return if p.scheme.isEmpty then rest else p.scheme ++ ':' :: rest

def plainPath (target : String) : Except Flaw (List Char) := do
  let outer ← split target.toList
  let inner ← split (outer.path ++ (if outer.query.isEmpty then [] else '?' :: outer.query))
  let path ← (← split inner.path).render
  let _ ← (Host.ofAuthority outer.authority).render
  return path

/-- The octets that a text with percent escapes spells; a percent sign without two digits stands for itself. -/
def unescape : List Char → List Nat
  | '%' :: a :: b :: rest =>
    match Json.hexValue? a, Json.hexValue? b with
    | some high, some low => (high * 16 + low) :: unescape rest
    | _, _ => '%'.toNat :: unescape (a :: b :: rest)
  | c :: rest => Utf8.encodeChar c ++ unescape rest
  | [] => []

def path (target : String) : Except Fault (List Char) :=
  match plainPath target with
  | .ok cs => .ok ((Utf8.repair (unescape cs)).dropWhile (· == '/'))
  | .error flaw => .error (.target flaw)

def segments (path : List Char) : List String := Path.cut (String.ofList path)

def mergeSlashes : List Char → List Char
  | '/' :: '/' :: rest => '/' :: mergeSlashes rest
  | c :: rest => c :: mergeSlashes rest
  | [] => []

end Preflight.Target
