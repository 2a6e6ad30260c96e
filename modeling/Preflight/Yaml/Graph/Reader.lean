import Preflight.Yaml.Tag
import Preflight.Yaml.Token.Stream

namespace Preflight.Yaml

inductive Content where
  | scalar (text : String)
  | sequence (items : List Nat)
  | mapping (entries : List (Nat × Nat))
  deriving Inhabited

def Content.name : Content → String
  | scalar _ => "scalar"
  | sequence _ => "sequence"
  | mapping _ => "mapping"

structure Node where
  tag : Tag
  content : Content
  mark : Mark
  deriving Inhabited

structure Graph where
  nodes : Array Node := #[]
  root : Option Nat := none

structure Reader where
  stream : Stream
  handles : List (String × String) := []
  names : List (String × Nat) := []
  nodes : Array Node := #[]

abbrev Reading (α : Type) := StateT Reader (Except Flaw) α

structure Properties where
  name : Option String := none
  tag : Option WrittenTag := none
  start : Option Mark := none
  tagStart : Option Mark := none

namespace Reading

def fail {α : Type} (flaw : Flaw) : Reading α := fun _ => .error flaw

def peek : Reading Token := fun r => do
  let (token, stream) ← r.stream.first
  return (token, { r with stream })

def drop : Reading Unit := modify fun r => { r with stream := r.stream.drop }

def skip? (kind : TokenKind) : Reading Bool := do
  if (← peek).kind == kind then
    drop
    return true
  else return false

def add (node : Node) : Reading Nat := fun r => .ok (r.nodes.size, { r with nodes := r.nodes.push node })

def setContent (n : Nat) (content : Content) : Reading Unit :=
  modify fun r => { r with nodes := r.nodes.modify n fun node => { node with content } }

def empty (mark : Mark) : Reading Nat := add ⟨.null, .scalar "", mark⟩

def takeName (p : Properties) : Reading Properties := do
  let token ← peek
  match token.kind with
  | .anchor name =>
    drop
    return { p with name := some name, start := p.start.or (some token.start) }
  | _ => return p

def takeTag (p : Properties) : Reading Properties := do
  let token ← peek
  match token.kind with
  | .tag t =>
    drop
    return { p with tag := some t, start := p.start.or (some token.start), tagStart := some token.start }
  | _ => return p

def properties : Reading Properties := do
  let p ← takeName {}
  if p.name.isSome then takeTag p
  else
    let p ← takeTag p
    if p.tag.isSome then takeName p else return p

def unspecific : String := "!"

def resolve (p : Properties) : Reading (Option String) := do
  match p.tag with
  | none => return none
  | some ⟨none, suffix⟩ => return some suffix
  | some ⟨some handle, suffix⟩ =>
    match (← get).handles.lookup handle with
    | some stands => return some (stands ++ suffix)
    | none =>
      let start := p.start.getD {}
      fail (.node "while parsing a node" start ("found undefined tag handle " ++ Text.quoted handle) (p.tagStart.getD start))

def addNamed (name : Option String) (node : Node) : Reading Nat := do
  match name with
  | none => add node
  | some name =>
    let r ← get
    match r.names.lookup name with
    | some n =>
      fail (.breach { layer := .names, context := some s!"found duplicate anchor {Text.quoted name}; first occurrence"
                      start := some (r.nodes.getD n default).mark, problem := "second occurrence", found := node.mark })
    | none =>
      let n ← add node
      modify fun r => { r with names := (name, n) :: r.names }
      return n

def named (name : String) (mark : Mark) : Reading Nat := do
  match (← get).names.lookup name with
  | some n => return n
  | none => fail (.plain .names ("found undefined alias " ++ Text.quoted name) mark)

def scalarTag (tag : Option String) (text : String) (isPlain : Bool) : Tag :=
  match tag with
  | none => if isPlain then .ofPlain text else .text
  | some name => if name = unspecific then .ofPlain text else .ofName name

def collectionTag (tag : Option String) (usual : Tag) : Tag :=
  match tag with
  | none => usual
  | some name => if name = unspecific then usual else .ofName name

def unexpected {α : Type} (context : String) (start : Mark) (expected : String) : Reading α := do
  let token ← peek
  fail (.node context start (expected ++ Text.quoted token.kind.name) token.start)

mutual

/-- A node. `inBlock` says that it may be a block, `indentless` that a sequence need not stand in. The fuel bounds
the tokens. -/
def node (inBlock indentless : Bool) : Nat → Reading Nat
  | 0 => empty {}
  | fuel + 1 => do
    let token ← peek
    match token.kind with
    | .reference name =>
      drop
      named name token.start
    | _ =>
      let p ← properties
      let tag ← resolve p
      let token ← peek
      let start := p.start.getD token.start
      let sequence := Node.mk (collectionTag tag .sequence) (.sequence []) start
      let mapping := Node.mk (collectionTag tag .mapping) (.mapping []) start
      match token.kind with
      | .scalar text isPlain =>
        drop
        addNamed p.name ⟨scalarTag tag text isPlain, .scalar text, start⟩
      | .flowSequenceStart =>
        let n ← addNamed p.name sequence
        drop
        setContent n (.sequence (← flowItems true token.start fuel))
        return n
      | .flowMappingStart =>
        let n ← addNamed p.name mapping
        drop
        setContent n (.mapping (← flowEntries true token.start fuel))
        return n
      | kind =>
        if indentless && kind == .blockEntry then
          let n ← addNamed p.name sequence
          setContent n (.sequence (← indentlessItems fuel))
          return n
        else if inBlock && kind == .blockSequenceStart then
          let n ← addNamed p.name sequence
          drop
          setContent n (.sequence (← blockItems token.start fuel))
          return n
        else if inBlock && kind == .blockMappingStart then
          let n ← addNamed p.name mapping
          drop
          setContent n (.mapping (← blockEntries token.start fuel))
          return n
        else if p.start.isSome then addNamed p.name ⟨scalarTag tag "" true, .scalar "", start⟩
        else
          let which := if inBlock then "block" else "flow"
          unexpected s!"while parsing a {which} node" start "expected the node content, but found "

def optional (inBlock indentless : Bool) (omitted : List TokenKind) (mark : Mark) : Nat → Reading Nat
  | 0 => empty mark
  | fuel + 1 => do
    if omitted.contains (← peek).kind then empty mark else node inBlock indentless fuel

def blockItems (start : Mark) : Nat → Reading (List Nat)
  | 0 => return []
  | fuel + 1 => do
    let token ← peek
    if token.kind == .blockEntry then
      drop
      let item ← optional true false [.blockEntry, .blockEnd] token.stop fuel
      return item :: (← blockItems start fuel)
    else if token.kind == .blockEnd then
      drop
      return []
    else unexpected "while parsing a block collection" start "expected <block end>, but found "

def indentlessItems : Nat → Reading (List Nat)
  | 0 => return []
  | fuel + 1 => do
    let token ← peek
    if token.kind == .blockEntry then
      drop
      let item ← optional true false [.blockEntry, .key, .value, .blockEnd] token.stop fuel
      return item :: (← indentlessItems fuel)
    else return []

def blockEntries (start : Mark) : Nat → Reading (List (Nat × Nat))
  | 0 => return []
  | fuel + 1 => do
    let token ← peek
    if token.kind == .key then
      drop
      let key ← optional true true [.key, .value, .blockEnd] token.stop fuel
      let value ← blockValue fuel
      return (key, value) :: (← blockEntries start fuel)
    else if token.kind == .blockEnd then
      drop
      return []
    else unexpected "while parsing a block mapping" start "expected <block end>, but found "

def blockValue : Nat → Reading Nat
  | 0 => empty {}
  | fuel + 1 => do
    let token ← peek
    if token.kind == .value then
      drop
      optional true true [.key, .value, .blockEnd] token.stop fuel
    else empty token.start

def flowItems (isFirst : Bool) (start : Mark) : Nat → Reading (List Nat)
  | 0 => return []
  | fuel + 1 => do
    if (← skip? .flowSequenceEnd) then return []
    if !isFirst && !(← skip? .flowEntry) then
      unexpected "while parsing a flow sequence" start "expected ',' or ']', but got "
    let token ← peek
    match token.kind with
    | .key =>
      let n ← add ⟨.mapping, .mapping [], token.start⟩
      drop
      let key ← optional false false [.value, .flowEntry, .flowSequenceEnd] token.stop fuel
      let value ← flowValue .flowSequenceEnd fuel
      setContent n (.mapping [(key, value)])
      return n :: (← flowItems false start fuel)
    | .flowSequenceEnd =>
      drop
      return []
    | _ =>
      let item ← node false false fuel
      return item :: (← flowItems false start fuel)

def flowEntries (isFirst : Bool) (start : Mark) : Nat → Reading (List (Nat × Nat))
  | 0 => return []
  | fuel + 1 => do
    if (← skip? .flowMappingEnd) then return []
    if !isFirst && !(← skip? .flowEntry) then
      unexpected "while parsing a flow mapping" start "expected ',' or '\x7d', but got "
    let token ← peek
    match token.kind with
    | .key =>
      drop
      let key ← optional false false [.value, .flowEntry, .flowMappingEnd] token.stop fuel
      let value ← flowValue .flowMappingEnd fuel
      return (key, value) :: (← flowEntries false start fuel)
    | .flowMappingEnd =>
      drop
      return []
    | _ =>
      let key ← node false false fuel
      let value ← empty (← peek).start
      return (key, value) :: (← flowEntries false start fuel)

def flowValue (closing : TokenKind) : Nat → Reading Nat
  | 0 => empty {}
  | fuel + 1 => do
    let token ← peek
    if token.kind == .value then
      drop
      optional false false [.flowEntry, closing] token.stop fuel
    else empty token.start

end

/-! Documents -/

def usualHandles : List (String × String) := [("!", "!"), ("!!", Tag.home)]

def directives : Nat → Bool → List (String × String) → Reading (List (String × String))
  | 0, _, handles => return handles
  | fuel + 1, hasVersion, handles => do
    let token ← peek
    match token.kind with
    | .directive (.version major) =>
      drop
      if hasVersion then fail (.plain .nodes "found duplicate YAML directive" token.start)
      if major ≠ 1 then
        fail (.plain .nodes "found incompatible YAML document (version 1.* is required)" token.start)
      directives fuel true handles
    | .directive (.handle name stands) =>
      drop
      if (handles.lookup name).isSome then
        fail (.plain .nodes ("duplicate tag handle " ++ Text.quoted name) token.start)
      directives fuel hasVersion (handles ++ [(name, stands)])
    | .directive .unknown =>
      drop
      directives fuel hasVersion handles
    | _ => return handles

def skipEnds : Nat → Reading Unit
  | 0 => return
  | fuel + 1 => do if (← skip? .documentEnd) then skipEnds fuel

def documentStart (fuel : Nat) : Reading (Option Mark) := do
  skipEnds fuel
  let token ← peek
  if token.kind == .streamEnd then return none
  let handles ← directives fuel false []
  modify fun r => { r with handles := handles ++ usualHandles }
  let next ← peek
  if next.kind != .documentStart then
    fail (.plain .nodes ("expected '<document start>', but found " ++ Text.quoted next.kind.name) next.start)
  drop
  return some token.start

def isDirective : TokenKind → Bool
  | .directive _ => true
  | _ => false

def endsDocument (kind : TokenKind) : Bool :=
  isDirective kind || [.documentStart, .documentEnd, .streamEnd].contains kind

def markedDocument (fuel : Nat) : Reading Nat := do
  let token ← peek
  if endsDocument token.kind then empty token.start else node true false fuel

def firstDocument (fuel : Nat) : Reading (Option Nat) := do
  let kind := (← peek).kind
  if isDirective kind || kind == .documentStart || kind == .streamEnd then
    match ← documentStart fuel with
    | some _ => some <$> markedDocument fuel
    | none => return none
  else
    modify fun r => { r with handles := usualHandles }
    some <$> node true false fuel

def onlyDocument (fuel : Nat) : Reading (Option Nat) := do
  match ← firstDocument fuel with
  | none => return none
  | some root =>
    let _ ← skip? .documentEnd
    match ← documentStart fuel with
    | none => return some root
    | some mark =>
      fail (.breach {
        layer := .names, context := some "expected a single document in the stream"
        start := some ((← get).nodes.getD root default).mark
        problem := "but found another document", found := mark })

end Reading

def isAllowed (c : Char) : Bool :=
  let n := c.toNat
  c == '\t' || c == '\n' || c == '\r' || (0x20 ≤ n && n ≤ 0x7e) || n == 0x85 || (0xa0 ≤ n && n ≤ 0xfffd) || 0x10000 ≤ n

def Graph.ofText (text : List Char) : Except Flaw Graph := do
  match (text.zipIdx).find? fun e => !isAllowed e.1 with
  | some (c, index) => throw (.character c index)
  | none =>
    let (root, r) ← (Reading.onlyDocument (8 * text.length + 16)).run { stream := .ofText text }
    return { nodes := r.nodes, root }

end Preflight.Yaml
