namespace Preflight

structure Path where
  root : String
  names : List String
  deriving DecidableEq, Repr

namespace Path

def cut (text : String) : List String := (text.toList.splitOn '/').map String.ofList

def rootOf (text : String) : String :=
  match (text.toList.takeWhile (· == '/')).length with
  | 0 => ""
  | 2 => "//"
  | _ => "/"

def ofText (text : String) : Path := ⟨rootOf text, (cut text).filter fun name => !name.isEmpty && name != "."⟩

def toText (p : Path) : String :=
  let text := p.root ++ String.intercalate "/" p.names
  if text.isEmpty then "." else text

def isRooted (p : Path) : Bool := !p.root.isEmpty

def join (p other : Path) : Path := if other.isRooted then other else { p with names := p.names ++ other.names }

def child (p : Path) (text : String) : Path := p.join (ofText text)

def parent (p : Path) : Path := { p with names := p.names.dropLast }

def stem (name : String) : String :=
  let reversed := name.toList.reverse
  let suffix := reversed.takeWhile (· != '.')
  let rest := (reversed.drop suffix.length).drop 1
  if rest.isEmpty || suffix.isEmpty then name else String.ofList rest.reverse

def homeText (home : String) : String :=
  let cs := (home.toList.reverse.dropWhile (· == '/')).reverse
  if cs.isEmpty then "/" else String.ofList cs

/-- Puts the home directory for a tilde at the start; a tilde with another name has no home, and neither has one
whose home starts with a tilde again. -/
def expandHome (p : Path) (home : Option String) : Option Path :=
  match p.names with
  | first :: rest =>
    if p.isRooted || !first.startsWith "~" then some p
    else if first = "~" then
      (home.map homeText).bind fun h =>
        if h.startsWith "~" then none else some { ofText h with names := (ofText h).names ++ rest }
    else none
  | [] => some p

def flattened (p : Path) : Path :=
  { p with names := p.names.foldl (fun names name => if name = ".." then names.dropLast else names ++ [name]) [] }

def absolute (start : List String) (text : String) : Path := ((Path.mk "/" start).join (ofText text)).flattened

end Path

end Preflight
