import Preflight.Text.Base64
import Preflight.Yaml.Graph.Reader
import Preflight.Yaml.Scalar
import Preflight.Yaml.Tree

/-!
The values of the nodes of a document. A scalar has its value at once; a collection is looked into only after all
nodes that were met before it, and that order decides which of two flaws is reported. Trees are put together last,
so that a name may stand for a node within itself.
-/
namespace Preflight.Yaml

inductive Shape where
  | leaf (v : Value)
  | list (items : List Nat)
  | pairs (rows : List (Nat × Nat))
  | mapping (entries : List (Nat × Nat))
  | set (members : List Nat)
  deriving Inhabited

structure Building where
  name : String
  nodes : Array Node
  shapes : Array (Option Shape)
  met : List Nat := []

abbrev Build (α : Type) := StateT Building (Except Fault) α

namespace Build

def fail {α : Type} (fault : Fault) : Build α := fun _ => .error fault

def lift {α : Type} (x : Except Fault α) : Build α := fun b => x.map (·, b)

def breach {α : Type} (context : Option String) (start : Option Mark) (problem : String) (found : Mark) : Build α := do
  fail (.malformedYaml (← get).name (.breach { layer := .values, context, start, problem, found }))

def refuse {α : Type} (problem : String) (found : Mark) : Build α := breach none none problem found

def node (n : Nat) : Build Node := do return (← get).nodes.getD n default

def setShape (n : Nat) (shape : Shape) : Build Unit :=
  modify fun b => { b with shapes := b.shapes.setIfInBounds n (some shape) }

def textOf : Nat → Node → Build String
  | 0, node => refuse s!"expected a scalar node, but found {node.content.name}" node.mark
  | fuel + 1, node => do
    match node.content with
    | .scalar text => return text
    | .sequence _ => refuse s!"expected a scalar node, but found {node.content.name}" node.mark
    | .mapping entries =>
      let b ← get
      match entries.find? fun e => (b.nodes.getD e.1 default).tag == .value with
      | some (_, value) => textOf fuel (b.nodes.getD value default)
      | none => refuse s!"expected a scalar node, but found {node.content.name}" node.mark

def octetsOf (text : String) (mark : Mark) : Build Value := do
  let cs := text.toList
  let lead := cs.takeWhile (·.toNat < 128)
  match cs.drop lead.length with
  | [] =>
    match Text.Base64.decode cs with
    | .ok bytes => return .octets bytes
    | .error flaw => refuse s!"failed to decode base64 data: {flaw.message}" mark
  | c :: rest =>
    let run := rest.takeWhile (128 ≤ ·.toNat)
    let first := lead.length
    let which := match run with
      | [] =>
        let shown := String.ofList (Text.numbered (Text.Surrogate.codePoint c))
        s!"character '{shown}' in position {first}"
      | _ => s!"characters in position {first}-{first + run.length}"
    refuse s!"failed to convert base64 data into ascii: 'ascii' codec can't encode {which}: ordinal not in range(128)"
      mark

def leafOf (node : Node) : Build (Option Value) := do
  let text : Build String := do textOf (← get).nodes.size node
  match node.tag with
  | .null =>
    let _ ← text
    return some .null
  | .boolean => return some (.boolean (← lift (truthOf (← text))))
  | .whole => return some (.whole (← lift (wholeOf (← text))))
  | .real => return some (.real (← lift (realOf (← text))))
  | .octets => return some (← octetsOf (← text) node.mark)
  | .stamp =>
    let written ← text
    match node.content with
    | .scalar _ => return some (← lift (stampOf written))
    | _ => fail (.notText "list")
  | .text => return some (.text (← text))
  | .orderedMap | .pairs | .set | .sequence | .mapping => return none
  | .merge | .value | .other _ =>
    refuse ("could not determine a constructor for the tag " ++ Text.quoted node.tag.name) node.mark

def meet (n : Nat) : Build Unit := do
  let b ← get
  if (b.shapes.getD n none).isSome then return
  match ← leafOf (← node n) with
  | some v => setShape n (.leaf v)
  | none =>
    setShape n (.list [])
    modify fun b => { b with met := b.met ++ [n] }

def isKeyNode (n : Nat) : Build Bool := do
  match (← get).shapes.getD n none with
  | some (.leaf _) => return true
  | _ => return false

def mappingContext : String := "while constructing a mapping"

def partEntries (entries : List (Nat × Nat)) : Build (List (Nat × Nat) × List Nat) := do
  let b ← get
  let isMerge (e : Nat × Nat) : Bool := (b.nodes.getD e.1 default).tag == .merge
  return (entries.filter (!isMerge ·), (entries.filter isMerge).map (·.2))

def setEntries (n : Nat) (entries : List (Nat × Nat)) : Build Unit :=
  modify fun b => { b with nodes := b.nodes.modify n fun node => { node with content := .mapping entries } }

def settleKeys (entries : List (Nat × Nat)) : Build Unit :=
  modify fun b => { b with
    nodes := entries.foldl (fun nodes e =>
      nodes.modify e.1 fun node => if node.tag == .value then { node with tag := .text } else node) b.nodes }

mutual

def flatten (n : Nat) : Nat → Build (List (Nat × Nat))
  | 0 => return []
  | fuel + 1 => do
    let around ← node n
    match around.content with
    | .mapping entries =>
      let (own, sources) ← partEntries entries
      setEntries n own
      let taken ← takenUp around sources fuel
      settleKeys own
      setEntries n (taken ++ own)
      return taken ++ own
    | _ => return []

def takenUp (around : Node) (sources : List Nat) : Nat → Build (List (Nat × Nat))
  | 0 => return []
  | fuel + 1 => do
    match sources with
    | [] => return []
    | n :: rest =>
      let source ← node n
      let taken ← match source.content with
        | .mapping _ => flatten n fuel
        | .sequence items => pure (← flattenAll around items fuel).reverse.flatten
        | .scalar _ =>
          breach mappingContext around.mark
            s!"expected a mapping or list of mappings for merging, but found {source.content.name}" source.mark
      return taken ++ (← takenUp around rest fuel)

def flattenAll (around : Node) (items : List Nat) : Nat → Build (List (List (Nat × Nat)))
  | 0 => return []
  | fuel + 1 => do
    match items with
    | [] => return []
    | n :: rest =>
      let part ← node n
      let entries ← match part.content with
        | .mapping _ => flatten n fuel
        | content =>
          breach mappingContext around.mark s!"expected a mapping for merging, but found {content.name}" part.mark
      return entries :: (← flattenAll around rest fuel)

end

def entriesOf (n : Nat) : Build (List (Nat × Nat)) := do
  let around ← node n
  match around.content with
  | .mapping _ =>
    let entries ← flatten n (8 * (← get).nodes.size + 8)
    entries.foldlM (fun done e => do
      meet e.1
      if !(← isKeyNode e.1) then breach mappingContext around.mark "found unhashable key" (← node e.1).mark
      meet e.2
      let b ← get
      let valueOf (n : Nat) : Value :=
        match b.shapes.getD n none with
        | some (.leaf v) => v
        | _ => .null
      return insertKey valueOf done e.1 e.2) []
  | content => refuse s!"expected a mapping node, but found {content.name}" around.mark

def itemsOf (n : Nat) : Build (List Nat) := do
  let around ← node n
  match around.content with
  | .sequence items =>
    items.forM meet
    return items
  | content => refuse s!"expected a sequence node, but found {content.name}" around.mark

def rowsOf (context : String) (n : Nat) : Build (List (Nat × Nat)) := do
  let around ← node n
  match around.content with
  | .sequence items =>
    items.mapM fun item => do
      let part ← node item
      match part.content with
      | .mapping [(key, value)] =>
        meet key
        meet value
        return (key, value)
      | .mapping entries =>
        breach context around.mark s!"expected a single mapping item, but found {entries.length} items" part.mark
      | content =>
        breach context around.mark s!"expected a mapping of length 1, but found {content.name}" part.mark
  | content => breach context around.mark s!"expected a sequence, but found {content.name}" around.mark

def fill (n : Nat) : Build Unit := do
  match (← node n).tag with
  | .sequence => setShape n (.list (← itemsOf n))
  | .set => setShape n (.set ((← entriesOf n).map (·.1)))
  | .orderedMap => setShape n (.pairs (← rowsOf "while constructing an ordered map" n))
  | .pairs => setShape n (.pairs (← rowsOf "while constructing pairs" n))
  | _ => setShape n (.mapping (← entriesOf n))

def fillAll : Nat → Build Unit
  | 0 => return
  | fuel + 1 => do
    match (← get).met with
    | [] => return
    | n :: rest =>
      modify fun b => { b with met := rest }
      fill n
      fillAll fuel

end Build

abbrev Trees := Array (Option Tree)

mutual

/-- The tree of a node; a collection that is met within itself stands there by a word. The fuel bounds the nodes on
the way, of which `above` are the collections. -/
def treeOf (shapes : Array (Option Shape)) (above : List Nat) (n : Nat) : Nat → StateM Trees Tree
  | 0 => return .null
  | fuel + 1 => do
    match (← get).getD n none with
    | some tree => return tree
    | none =>
      let tree ← match (shapes.getD n none).getD default with
        | .leaf v => pure (.leaf (some n) v)
        | .list items =>
          if above.contains n then return .leaf none (.around true)
          pure (.list (some n) (← treesOf shapes (n :: above) items fuel))
        | .pairs rows =>
          if above.contains n then return .leaf none (.around true)
          pure (.pairs (some n) (← rowTreesOf shapes (n :: above) rows fuel))
        | .mapping entries =>
          if above.contains n then return .leaf none (.around false)
          pure (.mapping (some n) (← rowTreesOf shapes (n :: above) entries fuel))
        | .set members => pure (.set (some n) (← treesOf shapes above members fuel))
      modify fun trees => trees.setIfInBounds n (some tree)
      return tree

def treesOf (shapes : Array (Option Shape)) (above : List Nat) (items : List Nat) : Nat → StateM Trees (List Tree)
  | 0 => return []
  | fuel + 1 => do
    match items with
    | [] => return []
    | n :: rest =>
      let tree ← treeOf shapes above n fuel
      return tree :: (← treesOf shapes above rest fuel)

def rowTreesOf (shapes : Array (Option Shape)) (above : List Nat) (rows : List (Nat × Nat)) :
    Nat → StateM Trees (List (Tree × Tree))
  | 0 => return []
  | fuel + 1 => do
    match rows with
    | [] => return []
    | (k, v) :: rest =>
      let key ← treeOf shapes above k fuel
      let value ← treeOf shapes above v fuel
      return (key, value) :: (← rowTreesOf shapes above rest fuel)

end

def stepsOf (shapes : Array (Option Shape)) : Nat :=
  shapes.foldl (fun total shape =>
    total + 2 + match shape with
      | some (.list items) | some (.set items) => items.length
      | some (.pairs rows) | some (.mapping rows) => rows.length
      | _ => 0) 2

def Tree.ofGraph (name : String) (g : Graph) : Except Fault Tree := do
  match g.root with
  | none => return .null
  | some root =>
    let start : Building := { name, nodes := g.nodes, shapes := Array.replicate g.nodes.size none }
    let build : Build Unit := do
      Build.meet root
      Build.fillAll (g.nodes.size + 1)
    let (_, b) ← build.run start
    return ((treeOf b.shapes [] root (stepsOf b.shapes)).run (Array.replicate g.nodes.size none)).1

def parse (name : String) (text : List Char) : Except Fault Tree := do
  match Graph.ofText text with
  | .ok g => Tree.ofGraph name g
  | .error flaw => throw (.malformedYaml name flaw)

end Preflight.Yaml
