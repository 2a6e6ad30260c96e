import Preflight.Yaml.Flaw

namespace Preflight.Yaml

def ending : Char := '\x00'

def isBreak (c : Char) : Bool := c == '\n' || c == '\r' || c == '\u0085' || c == '\u2028' || c == '\u2029'

def isLineEnd (c : Char) : Bool := c == ending || isBreak c

def isApart (c : Char) : Bool := c == ' ' || c == '\t' || isLineEnd c

def isSpaceOrEnd (c : Char) : Bool := c == ' ' || isLineEnd c

def isBlank (c : Char) : Bool := c == ' ' || c == '\t'

def isWordChar (c : Char) : Bool := c.isAlphanum || c == '-' || c == '_'

structure Cursor where
  rest : List Char
  index : Nat := 0
  line : Nat := 0
  column : Nat := 0
  deriving Inhabited

namespace Cursor

def mark (c : Cursor) : Mark := ⟨c.line, c.column⟩

def peekAt (c : Cursor) (n : Nat) : Char := (c.rest.drop n).headD ending

def peek (c : Cursor) : Char := c.rest.headD ending

def atEnd (c : Cursor) : Bool := c.rest.isEmpty

def next (c : Cursor) : Cursor :=
  match c.rest with
  | [] => c
  | x :: rest =>
    if isBreak x then ⟨rest, c.index + 1, c.line + 1, 0⟩
    else ⟨rest, c.index + 1, c.line, if x = '\ufeff' then c.column else c.column + 1⟩

def across (c : Cursor) (run : List Char) : Cursor := run.foldl (fun c _ => c.next) c

def skip (c : Cursor) (n : Nat) : Cursor := c.across (c.rest.take n)

def cut (c : Cursor) (p : Char → Bool) : List Char × Cursor :=
  let run := c.rest.takeWhile p
  (run, c.across run)

def skipWhile (c : Cursor) (p : Char → Bool) : Cursor := (c.cut p).2

def skipSpaces (c : Cursor) : Cursor := c.skipWhile (· == ' ')

def skipComment (c : Cursor) : Cursor := if c.peek = '#' then c.skipWhile (!isLineEnd ·) else c

def lineEnd? (c : Cursor) : Option (Char × Cursor) :=
  if isBreak c.peek then some (if c.peek = '\u2028' ∨ c.peek = '\u2029' then c.peek else '\n', c.next) else none

def skipLineEnd (c : Cursor) : Cursor :=
  match c.lineEnd? with
  | some (_, c) => c
  | none => c

def startsMarker (c : Cursor) (marker : List Char) : Bool := marker.isPrefixOf c.rest && isApart (c.peekAt 3)

def atMarker (c : Cursor) : Bool := c.startsMarker ['-', '-', '-'] || c.startsMarker ['.', '.', '.']

end Cursor

def shown (c : Char) : String := Text.quoted (String.singleton c)

end Preflight.Yaml
