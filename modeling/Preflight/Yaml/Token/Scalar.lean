import Preflight.Yaml.Token.Name

namespace Preflight.Yaml

def joinBreaks (first : Char) (more : List Char) : List Char :=
  if first ≠ '\n' then first :: more else if more.isEmpty then [' '] else more

/-! Plain scalars -/

def endsKey (inFlow : Bool) (rest : List Char) : Bool :=
  let c := rest.headD ending
  isApart c || (inFlow && [',', '[', ']', '\x7b', '\x7d'].contains c)

def plainRun (inFlow : Bool) : List Char → List Char
  | [] => []
  | c :: rest =>
    if isApart c || (c == ':' && endsKey inFlow rest) ||
        (inFlow && [',', '?', '[', ']', '\x7b', '\x7d'].contains c) then []
    else c :: plainRun inFlow rest

def plainBreaks : Nat → Cursor → Option (List Char) × Cursor
  | 0, c => (some [], c)
  | fuel + 1, c =>
    if c.atMarker then (none, c)
    else
      let c := c.skipSpaces
      match c.lineEnd? with
      | some (b, c) =>
        let (more, c) := plainBreaks fuel c
        (more.map (b :: ·), c)
      | none => (some [], c)

structure Gap where
  joint : List Char
  hasBreak : Bool
  after : Cursor

def plainGap (c : Cursor) : Gap :=
  let (spaces, c) := c.cut (· == ' ')
  match c.lineEnd? with
  | some (b, c) =>
    let (more, c) := plainBreaks (c.rest.length + 1) c
    ⟨(more.map (joinBreaks b)).getD [], true, c⟩
  | none => ⟨spaces, false, c⟩

/-- The rest of a plain scalar, whether a line end was the last that was read, and the place after it. `indent` is
the column that the words of later lines have to reach. The fuel is the length of the text. -/
def readPlain (inFlow : Bool) (indent : Int) : Nat → Bool → Cursor → List Char × Bool × Cursor
  | 0, hasBreak, c => ([], hasBreak, c)
  | fuel + 1, hasBreak, c =>
    match if c.peek = '#' then [] else plainRun inFlow c.rest with
    | [] => ([], hasBreak, c)
    | run =>
      let gap := plainGap (c.across run)
      if gap.joint.isEmpty || gap.after.peek = '#' || (!inFlow && gap.after.column < indent) then
        (run, gap.hasBreak, gap.after)
      else
        let (more, hasBreak, c) := readPlain inFlow indent fuel gap.hasBreak gap.after
        (run ++ (if more.isEmpty then [] else gap.joint ++ more), hasBreak, c)

/-! Quoted scalars -/

def escapeLetters : List (Char × Char) := [
  ('0', '\x00'), ('a', '\x07'), ('b', '\x08'), ('t', '\t'), ('\t', '\t'), ('n', '\n'), ('v', '\x0b'), ('f', '\x0c'),
  ('r', '\r'), ('e', '\x1b'), (' ', ' '), ('"', '"'), ('\\', '\\'), ('/', '/'), ('N', '\u0085'), ('_', '\u00a0'),
  ('L', '\u2028'), ('P', '\u2029')]

def escapeWidths : List (Char × Nat) := [('x', 2), ('u', 4), ('U', 8)]

def quotedContext : String := "while scanning a quoted scalar"
def doubleContext : String := "while scanning a double-quoted scalar"

def quotedBreaks (start : Mark) : Nat → Cursor → Except Flaw (List Char × Cursor)
  | 0, c => .ok ([], c)
  | fuel + 1, c =>
    if c.atMarker then .error (.token quotedContext start "found unexpected document separator" c.mark)
    else
      let c := c.skipWhile isBlank
      match c.lineEnd? with
      | some (b, c) => do
        let (more, c) ← quotedBreaks start fuel c
        return (b :: more, c)
      | none => .ok ([], c)

def readEscape (start : Mark) (c : Cursor) : Except Flaw (List Char × Cursor) :=
  match escapeLetters.lookup c.peek, escapeWidths.lookup c.peek with
  | some x, _ => .ok ([x], c.next)
  | none, some width =>
    let c := c.next
    let digits := (c.rest.take width).takeWhile isHexDigit
    let n := hexNumber digits
    if digits.length < width then
      .error (.token doubleContext start (s!"expected escape sequence of {width} hexadecimal numbers, but found " ++
        shown (c.peekAt digits.length)) c.mark)
    else if 0x10ffff < n then .error (.escape n)
    else .ok ([Text.Surrogate.charOf n], c.across digits)
  | none, none =>
    match c.lineEnd? with
    | some (_, c) => quotedBreaks start (c.rest.length + 1) c
    | none => .error (.token doubleContext start s!"found unknown escape character {shown c.peek}" c.mark)

def isQuotedChar (c : Char) : Bool := c != '\'' && c != '"' && c != '\\' && !isApart c

def quotedWord (double : Bool) (start : Mark) : Nat → Cursor → Except Flaw (List Char × Cursor)
  | 0, c => .ok ([], c)
  | fuel + 1, c => do
    let (run, c) := c.cut isQuotedChar
    let goOn (piece : List Char) (c : Cursor) : Except Flaw (List Char × Cursor) := do
      let (more, c) ← quotedWord double start fuel c
      return (run ++ piece ++ more, c)
    if !double && c.peek = '\'' && c.peekAt 1 = '\'' then goOn ['\''] (c.skip 2)
    else if (double && c.peek = '\'') || (!double && (c.peek = '"' || c.peek = '\\')) then goOn [c.peek] c.next
    else if double && c.peek = '\\' then
      let (piece, c) ← readEscape start c.next
      goOn piece c
    else return (run, c)

def quotedGap (start : Mark) (c : Cursor) : Except Flaw (List Char × Cursor) :=
  let (blanks, c) := c.cut isBlank
  if c.atEnd then .error (.token quotedContext start "found unexpected end of stream" c.mark)
  else match c.lineEnd? with
    | some (b, c) => do
      let (more, c) ← quotedBreaks start (c.rest.length + 1) c
      return (joinBreaks b more, c)
    | none => .ok (blanks, c)

def readQuoted (double : Bool) (start : Mark) : Nat → Cursor → Except Flaw (List Char × Cursor)
  | 0, c => .ok ([], c)
  | fuel + 1, c => do
    let (word, c) ← quotedWord double start (c.rest.length + 1) c
    if c.peek = (if double then '"' else '\'') then return (word, c.next)
    else
      let (gap, c) ← quotedGap start c
      let (more, c) ← readQuoted double start fuel c
      return (word ++ gap ++ more, c)

/-! Blocks of lines -/

inductive Chomping where
  | none
  | one
  | all
  deriving DecidableEq, Repr

structure BlockHeader where
  chomping : Chomping := .one
  increment : Option Nat := none

def blockContext : String := "while scanning a block scalar"

def chompings : List (Char × Chomping) := [('+', .all), ('-', .none)]

def readIncrement (start : Mark) (c : Cursor) : Except Flaw (Option Nat × Cursor) :=
  if c.peek = '0' then
    .error (.token blockContext start "expected indentation indicator in the range 1-9, but found 0" c.mark)
  else if c.peek.isDigit then .ok (some (hexValue c.peek), c.next)
  else .ok (none, c)

def readBlockHeader (start : Mark) (c : Cursor) : Except Flaw (BlockHeader × Cursor) := do
  let (header, c) ← match chompings.lookup c.peek with
    | some chomping => do
      let (increment, c) ← readIncrement start c.next
      pure (BlockHeader.mk chomping increment, c)
    | none => do
      let (increment, c) ← readIncrement start c
      match increment, chompings.lookup c.peek with
      | some _, some chomping => pure (BlockHeader.mk chomping increment, c.next)
      | _, _ => pure ({ increment }, c)
  if isSpaceOrEnd c.peek then return (header, ← c.endLine blockContext start)
  else c.refuse blockContext start "chomping or indentation indicators"

def Cursor.indentTo (c : Cursor) (column : Nat) : Cursor :=
  c.across ((c.rest.takeWhile (· == ' ')).take (column - c.column))

def blockBreaks (indent : Nat) : Nat → Cursor → List Char × Cursor
  | 0, c => ([], c)
  | fuel + 1, c =>
    let c := c.indentTo indent
    match c.lineEnd? with
    | some (b, c) =>
      let (more, c) := blockBreaks indent fuel c
      (b :: more, c)
    | none => ([], c)

def firstIndent : Nat → Nat → Cursor → List Char × Nat × Cursor
  | 0, furthest, c => ([], furthest, c)
  | fuel + 1, furthest, c =>
    let (spaces, c) := c.cut (· == ' ')
    let furthest := if spaces.isEmpty then furthest else max furthest c.column
    match c.lineEnd? with
    | some (b, c) =>
      let (more, furthest, c) := firstIndent fuel furthest c
      (b :: more, furthest, c)
    | none => ([], furthest, c)

structure BlockLines where
  text : List Char := []
  lineEnd : List Char := []
  breaks : List Char
  after : Cursor

def blockLines (folded : Bool) (indent : Nat) : Nat → List Char → Cursor → BlockLines
  | 0, breaks, c => { breaks, after := c }
  | fuel + 1, breaks, c =>
    if c.column ≠ indent || c.atEnd then { breaks, after := c }
    else
      let folds := folded && !isBlank c.peek
      let (line, c) := c.cut (!isLineEnd ·)
      let (lineEnd, c) := match c.lineEnd? with
        | some (b, c) => ([b], c)
        | none => ([], c)
      let (empty, c) := blockBreaks indent (c.rest.length + 1) c
      if c.column ≠ indent || c.atEnd then { text := breaks ++ line, lineEnd, breaks := empty, after := c }
      else
        let joint :=
          if folds && lineEnd = ['\n'] && !isBlank c.peek then (if empty.isEmpty then [' '] else []) else lineEnd
        let more := blockLines folded indent fuel empty c
        { more with text := breaks ++ line ++ joint ++ more.text }

def readBlock (folded : Bool) (outer : Int) (c : Cursor) : Except Flaw (List Char × Cursor) := do
  let (header, c) ← readBlockHeader c.mark c.next
  let least := (max (outer + 1) 1).toNat
  let (breaks, indent, c) := match header.increment with
    | some n =>
      let indent := least + n - 1
      let (breaks, c) := blockBreaks indent (c.rest.length + 1) c
      (breaks, indent, c)
    | none =>
      let (breaks, furthest, c) := firstIndent (c.rest.length + 1) 0 c
      (breaks, max least furthest, c)
  let lines := blockLines folded indent (c.rest.length + 1) breaks c
  let tail := match header.chomping with
    | .none => []
    | .one => lines.lineEnd
    | .all => lines.lineEnd ++ lines.breaks
  return (lines.text ++ tail, lines.after)

end Preflight.Yaml
