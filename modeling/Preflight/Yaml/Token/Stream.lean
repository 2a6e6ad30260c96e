import Preflight.Yaml.Token.Scalar

/-!
The stream of tokens of a document. Blocks open and close by their columns; a scalar or a flow turns out to be a key
only at the colon after it, so tokens wait while one of them may still be a key.
-/
namespace Preflight.Yaml

structure KeyCandidate where
  number : Nat
  required : Bool
  index : Nat
  mark : Mark
  deriving DecidableEq, Repr

structure Stream where
  cursor : Cursor
  waiting : List Token := []
  taken : Nat := 0
  finished : Bool := false
  flows : Nat := 0
  indent : Int := -1
  outer : List Int := []
  keyAllowed : Bool := true
  candidates : List (Nat × KeyCandidate) := []

namespace Stream

def ofText (text : List Char) : Stream := { cursor := { rest := text } }

def mark (s : Stream) : Mark := s.cursor.mark

def inFlow (s : Stream) : Bool := s.flows != 0

def push (s : Stream) (t : Token) : Stream := { s with waiting := s.waiting ++ [t] }

def pushAt (s : Stream) (kind : TokenKind) (mark : Mark) : Stream := s.push ⟨kind, mark, mark⟩

def pushTo (s : Stream) (kind : TokenKind) (after : Cursor) : Stream :=
  { s.push ⟨kind, s.mark, after.mark⟩ with cursor := after }

def insertAt (s : Stream) (number : Nat) (kind : TokenKind) (mark : Mark) : Stream :=
  { s with waiting := s.waiting.insertIdx (number - s.taken) ⟨kind, mark, mark⟩ }

def refuse {α : Type} (s : Stream) (problem : String) : Except Flaw α := .error (.plain .tokens problem s.mark)

/-! Candidates for keys -/

def longestKey : Nat := 1024

def lose (s : Stream) (k : KeyCandidate) : Except Flaw Unit :=
  if k.required then .error (.token "while scanning a simple key" k.mark "could not find expected ':'" s.mark)
  else .ok ()

def isStale (s : Stream) (k : KeyCandidate) : Bool :=
  k.mark.line != s.cursor.line || longestKey < s.cursor.index - k.index

def dropStale (s : Stream) : Except Flaw Stream := do
  (s.candidates.filter fun e => s.isStale e.2).forM fun e => s.lose e.2
  return { s with candidates := s.candidates.filter fun e => !s.isStale e.2 }

def dropCandidate (s : Stream) : Except Flaw Stream := do
  (s.candidates.lookup s.flows).forM s.lose
  return { s with candidates := s.candidates.filter (·.1 != s.flows) }

def addCandidate (s : Stream) : Except Flaw Stream := do
  let required := !s.inFlow && s.indent == s.cursor.column
  if !s.keyAllowed then return s
  let s ← s.dropCandidate
  let k : KeyCandidate := ⟨s.taken + s.waiting.length, required, s.cursor.index, s.mark⟩
  return { s with candidates := s.candidates ++ [(s.flows, k)] }

/-! Columns of blocks -/

def closeBlocks (s : Stream) (column : Int) : List Int → Stream
  | [] => { s with outer := [] }
  | next :: outer =>
    if column < s.indent then closeBlocks { s.pushAt .blockEnd s.mark with indent := next } column outer
    else { s with outer := next :: outer }

def unwind (s : Stream) (column : Int) : Stream := if s.inFlow then s else s.closeBlocks column s.outer

def openBlock (s : Stream) (column : Nat) : Option Stream :=
  if s.indent < column then some { s with outer := s.indent :: s.outer, indent := column } else none

/-! The next token -/

def skipToToken : Nat → Stream → Stream
  | 0, s => s
  | fuel + 1, s =>
    let c := s.cursor.skipSpaces.skipComment
    match c.lineEnd? with
    | some (_, c) => skipToToken fuel { s with cursor := c, keyAllowed := s.keyAllowed || !s.inFlow }
    | none => { s with cursor := c }

def skipByteOrderMark (s : Stream) : Stream :=
  if s.cursor.index = 0 ∧ s.cursor.peek = '\ufeff' then { s with cursor := s.cursor.next } else s

def finish (s : Stream) : Except Flaw Stream := do
  let s ← (s.unwind (-1)).dropCandidate
  return { s.pushAt .streamEnd s.mark with keyAllowed := false, candidates := [], finished := true }

def directive (s : Stream) : Except Flaw Stream := do
  let s ← (s.unwind (-1)).dropCandidate
  let (d, after) ← readDirective s.cursor
  return { s.pushTo (.directive d) after with keyAllowed := false }

def marker (s : Stream) (kind : TokenKind) : Except Flaw Stream := do
  let s ← (s.unwind (-1)).dropCandidate
  return { s.pushTo kind (s.cursor.skip 3) with keyAllowed := false }

def openFlow (s : Stream) (kind : TokenKind) : Except Flaw Stream := do
  let s ← s.addCandidate
  return { s.pushTo kind s.cursor.next with flows := s.flows + 1, keyAllowed := true }

def closeFlow (s : Stream) (kind : TokenKind) : Except Flaw Stream := do
  let s ← s.dropCandidate
  return { s.pushTo kind s.cursor.next with flows := s.flows - 1, keyAllowed := false }

def flowEntry (s : Stream) : Except Flaw Stream := do
  let s ← { s with keyAllowed := true }.dropCandidate
  return s.pushTo .flowEntry s.cursor.next

def beginEntry (s : Stream) (kind : TokenKind) (what : String) : Except Flaw Stream :=
  if s.inFlow then .ok s
  else if !s.keyAllowed then s.refuse s!"{what} are not allowed here"
  else .ok (match s.openBlock s.cursor.column with
    | some s => s.pushAt kind s.mark
    | none => s)

def blockEntry (s : Stream) : Except Flaw Stream := do
  let s ← s.beginEntry .blockSequenceStart "sequence entries"
  let s ← { s with keyAllowed := true }.dropCandidate
  return s.pushTo .blockEntry s.cursor.next

def keyMark (s : Stream) : Except Flaw Stream := do
  let s ← s.beginEntry .blockMappingStart "mapping keys"
  let s ← { s with keyAllowed := !s.inFlow }.dropCandidate
  return s.pushTo .key s.cursor.next

def settleKey (s : Stream) (k : KeyCandidate) : Stream :=
  let s := { s with candidates := s.candidates.filter (·.1 != s.flows) }
  let s := s.insertAt k.number .key k.mark
  let s := match if s.inFlow then none else s.openBlock k.mark.column with
    | some s => s.insertAt k.number .blockMappingStart k.mark
    | none => s
  { s with keyAllowed := false }

def valueMark (s : Stream) : Except Flaw Stream := do
  let s ← match s.candidates.lookup s.flows with
    | some k => pure (s.settleKey k)
    | none => do
      let s ← s.beginEntry .blockMappingStart "mapping values"
      { s with keyAllowed := !s.inFlow }.dropCandidate
  return s.pushTo .value s.cursor.next

def nodeName (s : Stream) (what : String) (kind : String → TokenKind) : Except Flaw Stream := do
  let s ← s.addCandidate
  let (name, after) ← readName what s.cursor
  return { s.pushTo (kind name) after with keyAllowed := false }

def tag (s : Stream) : Except Flaw Stream := do
  let s ← s.addCandidate
  let (t, after) ← readTag s.cursor
  return { s.pushTo (.tag t) after with keyAllowed := false }

def block (s : Stream) (folded : Bool) : Except Flaw Stream := do
  let s ← { s with keyAllowed := true }.dropCandidate
  let (text, after) ← readBlock folded s.indent s.cursor
  return s.pushTo (.scalar (String.ofList text) false) after

def quoted (s : Stream) (double : Bool) : Except Flaw Stream := do
  let s ← s.addCandidate
  let (text, after) ← readQuoted double s.mark s.cursor.rest.length s.cursor.next
  return { s.pushTo (.scalar (String.ofList text) false) after with keyAllowed := false }

def plain (s : Stream) : Except Flaw Stream := do
  let s ← s.addCandidate
  let (text, hasBreak, after) := readPlain s.inFlow (s.indent + 1) (s.cursor.rest.length + 1) false s.cursor
  return { s.pushTo (.scalar (String.ofList text) true) after with keyAllowed := hasBreak }

def marks : List Char := ['-', '?', ':', ',', '[', ']', '\x7b', '\x7d', '#', '&', '*', '!', '|', '>', '\'', '"', '%',
  '@', Char.ofNat 96]

def startsPlain (s : Stream) : Bool :=
  let c := s.cursor.peek
  !(isApart c || marks.contains c) ||
    (!isApart (s.cursor.peekAt 1) && (c == '-' || (!s.inFlow && (c == '?' || c == ':'))))

def advance (s : Stream) : Except Flaw Stream := do
  let s ← (skipToToken (s.cursor.rest.length + 1) s.skipByteOrderMark).dropStale
  let s := s.unwind s.cursor.column
  let c := s.cursor
  let isMark := isApart (c.peekAt 1)
  if c.atEnd then s.finish
  else if c.column = 0 ∧ c.peek = '%' then s.directive
  else if c.column = 0 ∧ c.startsMarker ['-', '-', '-'] then s.marker .documentStart
  else if c.column = 0 ∧ c.startsMarker ['.', '.', '.'] then s.marker .documentEnd
  else match c.peek with
    | '[' => s.openFlow .flowSequenceStart
    | '\x7b' => s.openFlow .flowMappingStart
    | ']' => s.closeFlow .flowSequenceEnd
    | '\x7d' => s.closeFlow .flowMappingEnd
    | ',' => s.flowEntry
    | '*' => s.nodeName "alias" .reference
    | '&' => s.nodeName "anchor" .anchor
    | '!' => s.tag
    | '\'' => s.quoted false
    | '"' => s.quoted true
    | x =>
      if x = '-' ∧ isMark then s.blockEntry
      else if x = '?' ∧ (s.inFlow ∨ isMark) then s.keyMark
      else if x = ':' ∧ (s.inFlow ∨ isMark) then s.valueMark
      else if x = '|' ∧ !s.inFlow then s.block false
      else if x = '>' ∧ !s.inFlow then s.block true
      else if s.startsPlain then s.plain
      else .error (.noToken x s.mark)

def isOpen (s : Stream) : Bool :=
  !s.finished && (s.waiting.isEmpty || s.candidates.any (·.2.number == s.taken))

def refresh (s : Stream) : Except Flaw Stream := if s.finished || s.waiting.isEmpty then .ok s else s.dropStale

def settle : Nat → Stream → Except Flaw Stream
  | 0, s => .ok s
  | fuel + 1, s => do
    let s ← (← s.advance).refresh
    if s.isOpen then settle fuel s else return s

def first (s : Stream) : Except Flaw (Token × Stream) := do
  let s ← s.refresh
  let s ← if s.isOpen then settle (s.cursor.rest.length + 2) s else pure s
  return (s.waiting.headD ⟨.streamEnd, s.mark, s.mark⟩, s)

def drop (s : Stream) : Stream := { s with waiting := s.waiting.drop 1, taken := s.taken + 1 }

end Stream

end Preflight.Yaml
