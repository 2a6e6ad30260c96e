import Preflight.Diagnostic.Template.Subject

/-!
Message templates: text with numbered places for values. `{0}` takes the first value as running text, `{0:.1f}`
takes it as a number with one place; a brace that stands for itself is written twice. What follows the colon may
hold places of its own. `render` fills the places in order and stops at the first one that cannot be filled.
-/
namespace Preflight.Template

inductive Piece where
  | literal (c : Char)
  | place (name : List Char) (conversion : Option Char) (spec : List Char)
  deriving DecidableEq, Repr

def openBrace : Char := '\x7b'
def closeBrace : Char := '\x7d'

def splitSpec : Nat → List Char → List Char → Except Fault (List Char × List Char)
  | _, _, [] => malformed "unmatched '\x7b' in format spec"
  | depth, done, c :: rest =>
    if c = closeBrace then
      match depth with
      | 0 => .ok (done.reverse, rest)
      | depth + 1 => splitSpec depth (c :: done) rest
    else if c = openBrace then splitSpec (depth + 1) (c :: done) rest
    else splitSpec depth (c :: done) rest

def placeWithSpec (name : List Char) (conversion : Option Char) (cs : List Char) :
    Except Fault (Piece × List Char) := do
  let (spec, rest) ← splitSpec 0 [] cs
  return (.place name conversion spec, rest)

def placeWithConversion (name : List Char) (conversion : Char) (cs : List Char) :
    Except Fault (Piece × List Char) :=
  match cs with
  | [] => malformed "unmatched '\x7b' in format spec"
  | c :: rest =>
    if c = closeBrace then .ok (.place name (some conversion) [], rest)
    else if c = ':' then placeWithSpec name (some conversion) rest
    else malformed "expected ':' after conversion specifier"

def endsName (c : Char) : Bool := c == '!' || c == ':' || c == openBrace || c == closeBrace

def splitName (inBrackets : Bool) : List Char → List Char × List Char
  | [] => ([], [])
  | c :: rest =>
    if !inBrackets && endsName c then ([], c :: rest)
    else
      let (name, rest) := splitName (if inBrackets then c != ']' else c == '[') rest
      (c :: name, rest)

def readPlace (cs : List Char) : Except Fault (Piece × List Char) :=
  match splitName false cs with
  | (_, []) => malformed "expected '\x7d' before end of string"
  | (_, ['!']) => malformed "end of string while looking for conversion specifier"
  | (name, '!' :: conversion :: rest) => placeWithConversion name conversion rest
  | (name, ':' :: rest) => placeWithSpec name none rest
  | (name, c :: rest) =>
    if c = openBrace then malformed "unexpected '\x7b' in field name" else .ok (.place name none [], rest)

def nextPiece (c : Char) (rest : List Char) : Except Fault (Piece × List Char) :=
  if c = openBrace then
    match rest with
    | [] => malformed "Single '\x7b' encountered in format string"
    | d :: more =>
      if d = openBrace then .ok (.literal openBrace, more)
      else readPlace rest
  else if c = closeBrace then
    match rest with
    | d :: more =>
      if d = closeBrace then .ok (.literal closeBrace, more)
      else malformed "Single '\x7d' encountered in format string"
    | [] => malformed "Single '\x7d' encountered in format string"
  else .ok (.literal c, rest)

inductive Numbering where
  | undecided
  | counted (next : Nat)
  | named
  deriving DecidableEq, Repr

def lookup (args : List Value) (numbering : Numbering) (name : List Char) :
    Except Fault (Subject × Numbering) := do
  let at? (index : Nat) : Except Fault Subject := match args[index]? with
    | some v => .ok (.value v)
    | none => .error (.missingArgument index)
  let first := name.takeWhile fun c => c != '.' && c != '['
  let (subject, numbering) ←
    match ← Subject.numberIn? first, first.isEmpty, numbering with
    | _, true, .undecided => pure (← at? 0, .counted 1)
    | _, true, .counted next => pure (← at? next, .counted (next + 1))
    | _, true, .named => malformed "cannot switch from manual field specification to automatic field numbering"
    | some _, _, .counted _ =>
      malformed "cannot switch from automatic field numbering to manual field specification"
    | some index, _, _ => pure (← at? index, .named)
    | none, _, _ => throw (.missingName (String.ofList first))
  return (← subject.follow name.length (name.drop first.length), numbering)

abbrev Filled := List Char × Numbering

/-- Fills the places of a template from left to right; `expand` fills those within a specification. The fuel is the
length of the template. -/
def fillFrom (expand : Numbering → List Char → Except Fault Filled) (args : List Value) :
    Nat → Numbering → List Char → Except Fault Filled
  | 0, numbering, _ => .ok ([], numbering)
  | _ + 1, numbering, [] => .ok ([], numbering)
  | fuel + 1, numbering, c :: rest => do
    match ← nextPiece c rest with
    | (.literal c, rest) =>
      let (text, numbering) ← fillFrom expand args fuel numbering rest
      return (c :: text, numbering)
    | (.place name conversion spec, rest) =>
      let (subject, numbering) ← lookup args numbering name
      let subject ← match conversion with
        | some c => subject.convert c
        | none => pure subject
      let (spec, numbering) ← if spec.contains openBrace then expand numbering spec else pure (spec, numbering)
      let filled ← subject.format spec
      let (text, numbering) ← fillFrom expand args fuel numbering rest
      return (filled.toList ++ text, numbering)

def fill (args : List Value) : Nat → Numbering → List Char → Except Fault Filled
  | 0, _, _ => malformed "Max string recursion exceeded"
  | depth + 1, numbering, cs => fillFrom (fill args depth) args cs.length numbering cs

def render (template : String) (args : List Value) : Except Fault String := do
  return String.ofList (← fill args 2 .undecided template.toList).1

end Preflight.Template
