import Preflight.Text.Quoted
import Preflight.Yaml.Form

namespace Preflight.Yaml.Writer

structure Output where
  written : List Char := []
  column : Nat := 0
  afterBlank : Bool := true
  inIndent : Bool := true

namespace Output

def put (o : Output) (cs : List Char) : Output := { o with written := cs.reverse ++ o.written, column := o.column + cs.length }

def inText (o : Output) : Output := { o with afterBlank := false, inIndent := false }

def putMark (o : Output) (cs : List Char) (needsBlank : Bool) : Output :=
  (o.put (if o.afterBlank || !needsBlank then cs else ' ' :: cs)).inText

def putEntryMark (o : Output) (mark : Char) : Output := { o.putMark [mark] true with inIndent := o.inIndent }

def putOpening (o : Output) (bracket : Char) : Output := { o.putMark [bracket] true with afterBlank := true }

def putLineEnd (o : Output) : Output := ⟨'\n' :: o.written, 0, true, true⟩

def indentTo (o : Output) (column : Nat) : Output :=
  let o := if !o.inIndent || column < o.column || (o.column = column && !o.afterBlank) then o.putLineEnd else o
  if o.column < column then { o.put (List.replicate (column - o.column) ' ') with afterBlank := true } else o

def toText (o : Output) : String := String.ofList o.written.reverse

end Output

def width : Nat := 80

structure Analysis where
  isEmpty : Bool := false
  marked : Bool := false
  broken : Bool := false
  special : Bool := false
  loose : Bool := false
  spaceAfterBreak : Bool := false
  spaceBeforeBreak : Bool := false

def isApart (c : Option Char) : Bool :=
  match c with
  | none => true
  | some c => c == '\x00' || c == ' ' || c == '\t' || c == '\r' || c == '\n' || c == '\u0085' || c == '\u2028' ||
    c == '\u2029'

def isMark (before : Option Char) (c : Char) (after : Option Char) : Bool :=
  match before with
  | none =>
    ['#', ',', '[', ']', '\x7b', '\x7d', '&', '*', '!', '|', '>', '\'', '"', '%', '@', Char.ofNat 96].contains c ||
      ((c == '?' || c == ':' || c == '-') && isApart after)
  | some _ => (c == ':' && isApart after) || (c == '#' && isApart before)

def isLineEnd (c : Char) : Bool := c == '\n' || c == '\u0085' || c == '\u2028' || c == '\u2029'

def isPlainAscii (c : Char) : Bool := c == '\n' || (' ' ≤ c && c ≤ '~')

def neighbours : Option Char → List Char → List (Option Char × Char × Option Char)
  | _, [] => []
  | before, c :: rest => (before, c, rest.head?) :: neighbours (some c) rest

def analyze (cs : List Char) : Analysis :=
  let around := neighbours none cs
  let isLoose (c : Option Char) : Bool := c.any fun c => c == ' ' || isLineEnd c
  { isEmpty := cs.isEmpty
    marked := "---".toList.isPrefixOf cs || "...".toList.isPrefixOf cs ||
      around.any fun (before, c, after) => isMark before c after
    broken := cs.any isLineEnd
    special := cs.any (!isPlainAscii ·)
    loose := isLoose cs.head? || isLoose cs.getLast?
    spaceAfterBreak := around.any fun (before, c, _) => c == ' ' && before.any isLineEnd
    spaceBeforeBreak := around.any fun (before, c, _) => isLineEnd c && before == some ' ' }

def Analysis.fitsPlain (a : Analysis) : Bool :=
  !(a.loose || a.spaceAfterBreak || a.spaceBeforeBreak || a.special || a.broken || a.marked)

def Analysis.fitsSingle (a : Analysis) : Bool := !(a.spaceAfterBreak || a.spaceBeforeBreak || a.special)

def Analysis.fitsBlock (a : Analysis) (cs : List Char) : Bool :=
  !a.isEmpty && cs.getLast? != some ' ' && !a.spaceBeforeBreak && !a.special

inductive Style where
  | plain
  | single
  | double
  | block
  deriving DecidableEq

def styleOf (isKey : Bool) (tag : Tag) (text : String) (isBlock : Bool) : Style :=
  let cs := text.toList
  let a := analyze cs
  if !isBlock && Tag.ofPlain text == tag && a.fitsPlain && !(isKey && a.isEmpty) then .plain
  else if isBlock && !isKey && a.fitsBlock cs then .block
  else if a.fitsSingle && !(isKey && a.broken) then .single
  else .double

def showsTag (tag : Tag) (text : String) : Style → Bool
  | .plain => Tag.ofPlain text == tag
  | _ => tag == .text

def runs : List Char → List (List Char)
  | [] => []
  | c :: rest =>
    let kind (c : Char) : Nat := if c == ' ' then 0 else if isLineEnd c then 1 else 2
    match runs rest with
    | (d :: run) :: more => if kind c = kind d then (c :: d :: run) :: more else [c] :: (d :: run) :: more
    | more => [c] :: more

def putLineEnds (o : Output) (n : Nat) : Output := (List.range n).foldl (fun o _ => o.putLineEnd) o

def putRuns (indent : Nat) (encode : List Char → List Char) (o : Output) (isFirst : Bool) : List (List Char) → Output
  | [] => o
  | run :: rest =>
    let o :=
      if run = [' '] && width < o.column && !isFirst && !rest.isEmpty then (o.indentTo indent).inText
      else if run.head? == some '\n' then (putLineEnds o (run.length + 1)).indentTo indent
      else (o.put (encode run)).inText
    putRuns indent encode o false rest

def doubled (cs : List Char) : List Char := cs.flatMap fun c => if c == '\'' then ['\'', '\''] else [c]

def escapeLetters : List (Char × Char) := [
  ('\x00', '0'), ('\x07', 'a'), ('\x08', 'b'), ('\t', 't'), ('\n', 'n'), ('\x0b', 'v'), ('\x0c', 'f'), ('\r', 'r'),
  ('\x1b', 'e'), ('"', '"'), ('\\', '\\'), ('\u0085', 'N'), ('\u00a0', '_'), ('\u2028', 'L'), ('\u2029', 'P')]

def upperHex (digits n : Nat) : List Char := (Text.hexDigits digits n).map Char.toUpper

def escape (c : Char) : List Char :=
  match escapeLetters.lookup c with
  | some x => ['\\', x]
  | none =>
    let n := Text.Surrogate.codePoint c
    if n ≤ 0xff then '\\' :: 'x' :: upperHex 2 n
    else if n ≤ 0xffff then '\\' :: 'u' :: upperHex 4 n
    else '\\' :: 'U' :: upperHex 8 n

def isBare (c : Char) : Bool := ' ' ≤ c && c ≤ '~' && c != '"' && c != '\\'

/-- Writes the inside of double quotes. `pending` are characters that stand bare, the last one first; a line is
broken before a blank or beside an escape once the width is exceeded, with a backslash at its end. -/
def putEscaped (indent length : Nat) (o : Output) (pending : List Char) (index : Nat) : List Char → Output
  | [] => o.put pending.reverse
  | c :: rest =>
    let bare := isBare c
    let o := if bare then o else (o.put pending.reverse).put (escape c)
    let pending := if bare then pending else []
    let breaks := 0 < index && index + 1 < length && (c == ' ' || !bare || pending.isEmpty) &&
      width + (if bare then 0 else 1) < o.column + pending.length
    if breaks then
      let o := ((o.put pending.reverse).put ['\\']).indentTo indent
      let following := if bare then some c else rest.head?
      let o := if following == some ' ' then o.put ['\\'] else o
      putEscaped indent length o.inText (if bare then [c] else []) (index + 1) rest
    else putEscaped indent length o (if bare then c :: pending else []) (index + 1) rest

def linesOf (cs : List Char) : List (List Char) :=
  let lines := cs.splitOn '\n'
  if lines.getLast? = some [] then lines.dropLast else lines

def putBlock (indent : Nat) (o : Output) (cs : List Char) : Output :=
  (linesOf cs).foldl (fun o line => ((o.indentTo indent).put line).putLineEnd) (o.putMark ['|'] true).putLineEnd

def putText (isKey : Bool) (indent : Nat) (o : Output) (style : Style) (cs : List Char) : Output :=
  match style with
  | .plain =>
    let o := if o.afterBlank || cs.isEmpty then o else o.put [' ']
    if isKey then (o.put cs).inText else putRuns indent id o.inText false (runs cs)
  | .single =>
    let o := o.putMark ['\''] true
    (if isKey then o.put (doubled cs) else putRuns indent doubled o true (runs cs)).putMark ['\''] false
  | .double =>
    let o := o.putMark ['"'] true
    (if isKey then o.put (cs.flatMap fun c => if isBare c then [c] else escape c)
      else putEscaped indent cs.length o [] 0 cs).putMark ['"'] false
  | .block => putBlock indent o cs

end Preflight.Yaml.Writer
