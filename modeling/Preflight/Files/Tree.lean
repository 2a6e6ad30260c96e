import Preflight.Fault
import Preflight.Files.Path

/-!
File trees: the files that the program sees, as a value. Every operation takes a path's text, follows it from the
working directory and either answers or names the reason of the refusal, as a file system would.
-/
namespace Preflight

inductive Node where
  | directory
  | file (octets : List UInt8)
  deriving DecidableEq

structure FileTree where
  nodes : List (List String × Node) := []
  workingDirectory : List String := []

namespace FileTree

def node? (tree : FileTree) (place : List String) : Option Node :=
  if place.isEmpty then some .directory else tree.nodes.lookup place

def put (tree : FileTree) (place : List String) (node : Node) : FileTree :=
  { tree with nodes := (place, node) :: tree.nodes.filter (·.1 != place) }

def drop (tree : FileTree) (place : List String) : FileTree :=
  { tree with nodes := tree.nodes.filter (·.1 != place) }

def longestName : Nat := 255
def longestPath : Nat := 4095

def walk (tree : FileTree) (place : List String) : List String → Except FileFault (List String)
  | [] => .ok place
  | name :: rest =>
    match tree.node? place with
    | none => .error .missing
    | some (.file _) => .error .notDirectory
    | some .directory =>
      if name = "" ∨ name = "." then tree.walk place rest
      else if name = ".." then tree.walk place.dropLast rest
      else if longestName < name.utf8ByteSize then .error .nameTooLong
      else tree.walk (place ++ [name]) rest

def place (tree : FileTree) (text : String) : Except FileFault (List String) :=
  if text.contains '\x00' then .error .unusable
  else if text.isEmpty then .error .missing
  else if longestPath < text.utf8ByteSize then .error .nameTooLong
  else tree.walk (if text.startsWith "/" then [] else tree.workingDirectory) (Path.cut text)

def about {α : Type} (text : String) (x : Except FileFault α) : Except Fault α :=
  x.mapError fun fault => .file fault text

def find (tree : FileTree) (text : String) : Except FileFault Node := do
  match tree.node? (← tree.place text) with
  | some node => .ok node
  | none => .error .missing

def read (tree : FileTree) (text : String) : Except Fault (List UInt8) := about text do
  match ← tree.find text with
  | .file octets => .ok octets
  | .directory => .error .isDirectory

def exists? (tree : FileTree) (text : String) : Except Fault Bool :=
  match tree.find text with
  | .ok _ => .ok true
  | .error .nameTooLong => .error (.file .nameTooLong text)
  | .error _ => .ok false

def isDirectory (tree : FileTree) (text : String) : Bool :=
  match tree.find text with
  | .ok .directory => true
  | _ => false

def update (tree : FileTree) (text : String) (change : List UInt8 → List UInt8) : Except Fault FileTree :=
  about text do
    let place ← tree.place text
    match tree.node? place with
    | some .directory => .error .isDirectory
    | some (.file octets) => .ok (tree.put place (.file (change octets)))
    | none => .ok (tree.put place (.file (change [])))

def write (tree : FileTree) (text : String) (octets : List UInt8) : Except Fault FileTree :=
  tree.update text fun _ => octets

def append (tree : FileTree) (text : String) (octets : List UInt8) : Except Fault FileTree :=
  tree.update text (· ++ octets)

def remove (tree : FileTree) (text : String) : Except Fault FileTree := about text do
  let place ← tree.place text
  match tree.node? place with
  | some .directory => .error .isDirectory
  | some (.file _) => .ok (tree.drop place)
  | none => .error .missing

def makeDirectory (tree : FileTree) (text : String) : Except FileFault FileTree := do
  let place ← tree.place text
  match tree.node? place with
  | some _ => .error .exists
  | none => .ok (tree.put place .directory)

def settleDirectory (tree : FileTree) (text : String) : Except FileFault FileTree → Except Fault FileTree
  | .ok tree => .ok tree
  | .error fault => if tree.isDirectory text then .ok tree else .error (.file fault text)

def makeDirectoriesAt (tree : FileTree) (path : Path) (depth : Nat) : Except Fault FileTree :=
  match depth, tree.makeDirectory path.toText with
  | depth + 1, .error .missing => do
    let tree ← tree.makeDirectoriesAt path.parent depth
    tree.settleDirectory path.toText (tree.makeDirectory path.toText)
  | _, made => tree.settleDirectory path.toText made

def makeDirectories (tree : FileTree) (path : Path) : Except Fault FileTree :=
  tree.makeDirectoriesAt path path.names.length

def namesIn (tree : FileTree) (text : String) : List String :=
  match tree.place text with
  | .error _ => []
  | .ok place =>
    if tree.isDirectory text then
      tree.nodes.filterMap fun (other, _) =>
        if other.dropLast = place then other.getLast? else none
    else []

end FileTree

def Utf8.octets (text : String) : List UInt8 := (Utf8.encode text.toList).map UInt8.ofNat

def Utf8.text (octets : List UInt8) : Except Fault (List Char) :=
  match Utf8.decode (octets.map UInt8.toNat) with
  | .ok cs => .ok (Utf8.unifyLineEnds cs)
  | .error flaw => .error (.undecodable flaw)

end Preflight
