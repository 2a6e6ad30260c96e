import Preflight.Text.Base64
import Preflight.Value.Order
import Preflight.Yaml.Tag
import Preflight.Yaml.Tree

namespace Preflight.Yaml

inductive Form where
  | scalar (mark : Option Nat) (tag : Tag) (text : String) (isBlock : Bool)
  | sequence (mark : Option Nat) (tag : Tag) (items : List Form)
  | mapping (mark : Option Nat) (tag : Tag) (entries : List (Form × Form))
  deriving Inhabited

namespace Form

def mark : Form → Option Nat
  | scalar mark .. | sequence mark .. | mapping mark .. => mark

def tag : Form → Tag
  | scalar _ tag .. | sequence _ tag _ | mapping _ tag _ => tag

def realText (x : Float) : String :=
  match Double.decode x with
  | .infinite negative => if negative then "-.inf" else ".inf"
  | .undefined => ".nan"
  | .finite .. =>
    let cs := (Decimal.toText x).toList
    let mantissa := cs.takeWhile (· != 'e')
    if mantissa.contains '.' || mantissa.length = cs.length then String.ofList cs
    else String.ofList (mantissa ++ ".0".toList ++ cs.drop mantissa.length)

def rowTag : Tag := .other (Tag.home ++ "python/tuple")

def ofLeaf (mark : Option Nat) : Value → Form
  | .boolean b => scalar none .boolean (if b then "true" else "false") false
  | .whole n => scalar none .whole (toString n) false
  | .real x => scalar none .real (realText x) false
  | .text s => scalar none .text s false
  | .octets bytes => scalar none .octets (String.ofList (Text.Base64.lines bytes)) true
  | .date d => scalar mark .stamp d.iso false
  | .moment m => scalar mark .stamp m.iso false
  | _ => scalar none .null "null" false

def row (a b : Form) : Form := sequence none rowTag [a, b]

def sorted (entries : List (Value × Form × Form)) : List (Form × Form) :=
  let inOrder := match Value.sortBy (fun a b => a.1.isBelow b.1) entries with
    | .ok entries => entries
    | .error _ => entries
  inOrder.map (·.2)

mutual

def ofTree : Tree → Form
  | .leaf mark v => ofLeaf mark v
  | .list mark items => sequence mark .sequence (ofTrees items)
  | .pairs mark rows => sequence mark .sequence ((ofRows rows).map fun e => row e.2.1 e.2.2)
  | .mapping mark entries => mapping mark .mapping (sorted (ofRows entries))
  | .set mark members => mapping mark .set (sorted (ofMembers members))

def ofTrees : List Tree → List Form
  | [] => []
  | t :: rest => ofTree t :: ofTrees rest

def ofRows : List (Tree × Tree) → List (Value × Form × Form)
  | [] => []
  | (k, t) :: rest => (k.toValue, ofTree k, ofTree t) :: ofRows rest

def ofMembers : List Tree → List (Value × Form × Form)
  | [] => []
  | t :: rest => (t.toValue, ofTree t, ofLeaf none .null) :: ofMembers rest

end

structure Names where
  met : List Nat := []
  numbers : List (Nat × Nat) := []

def Names.meet (names : Names) (mark : Option Nat) : Bool × Names :=
  match mark with
  | none => (false, names)
  | some m =>
    if !names.met.contains m then (false, { names with met := m :: names.met })
    else if (names.numbers.lookup m).isSome then (true, names)
    else (true, { names with numbers := (m, names.numbers.length + 1) :: names.numbers })

mutual

def namesIn (names : Names) : Form → Names
  | scalar mark .. => (names.meet mark).2
  | sequence mark _ items =>
    match names.meet mark with
    | (true, names) => names
    | (false, names) => namesInAll names items
  | mapping mark _ entries =>
    match names.meet mark with
    | (true, names) => names
    | (false, names) => namesInEntries names entries

def namesInAll (names : Names) : List Form → Names
  | [] => names
  | f :: rest => namesInAll (namesIn names f) rest

def namesInEntries (names : Names) : List (Form × Form) → Names
  | [] => names
  | (k, v) :: rest => namesInEntries (namesIn (namesIn names k) v) rest

end

end Form

end Preflight.Yaml
