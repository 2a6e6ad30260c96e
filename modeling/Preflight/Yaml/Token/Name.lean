import Preflight.Text.Utf8
import Preflight.Yaml.Cursor
import Preflight.Yaml.Token

namespace Preflight.Yaml

def isHexDigit (c : Char) : Bool := c.isDigit || ('a' ≤ c && c ≤ 'f') || ('A' ≤ c && c ≤ 'F')

def hexValue (c : Char) : Nat :=
  if c.isDigit then c.toNat - '0'.toNat else if 'a' ≤ c then c.toNat - 'a'.toNat + 10 else c.toNat - 'A'.toNat + 10

def hexNumber (cs : List Char) : Nat := cs.foldl (fun n c => n * 16 + hexValue c) 0

namespace Cursor

def refuse {α : Type} (c : Cursor) (context : String) (start : Mark) (expected : String) : Except Flaw α :=
  .error (.token context start s!"expected {expected}, but found {shown c.peek}" c.mark)

def endLine (c : Cursor) (context : String) (start : Mark) : Except Flaw Cursor :=
  let c := c.skipSpaces.skipComment
  if isLineEnd c.peek then .ok c.skipLineEnd else c.refuse context start "a comment or a line break"

end Cursor

def isUriChar (c : Char) : Bool :=
  c.isAlphanum || ['-', ';', '/', '?', ':', '@', '&', '=', '+', '$', ',', '_', '.', '!', '~', '*', '\'', '(', ')',
    '[', ']'].contains c

def readOctets (context : String) (start : Mark) : Nat → Cursor → Except Flaw (List Nat × Cursor)
  | 0, c => .ok ([], c)
  | fuel + 1, c =>
    if c.peek = '%' then
      let c := c.next
      let digits := (c.rest.take 2).takeWhile isHexDigit
      if digits.length < 2 then
        .error (.token context start
          ("expected URI escape sequence of 2 hexadecimal numbers, but found " ++ shown (c.peekAt digits.length)) c.mark)
      else do
        let (more, c) ← readOctets context start fuel (c.across digits)
        return (hexNumber digits :: more, c)
    else .ok ([], c)

def readUriFrom (context : String) (start : Mark) : Nat → Cursor → Except Flaw (List Char × Cursor)
  | 0, c => .ok ([], c)
  | fuel + 1, c =>
    if c.peek = '%' then do
      let mark := c.mark
      let (octets, c) ← readOctets context start c.rest.length c
      match Utf8.decode octets with
      | .error flaw => .error (.token context start flaw.message mark)
      | .ok cs =>
        let (more, c) ← readUriFrom context start fuel c
        return (cs ++ more, c)
    else
      match c.cut isUriChar with
      | ([], c) => .ok ([], c)
      | (run, c) => do
        let (more, c) ← readUriFrom context start fuel c
        return (run ++ more, c)

def readUri (name : String) (start : Mark) (c : Cursor) : Except Flaw (String × Cursor) := do
  let begun := c.index
  let (cs, c) ← readUriFrom s!"while scanning a {name}" start (c.rest.length + 1) c
  if c.index = begun then c.refuse s!"while parsing a {name}" start "URI" else return (String.ofList cs, c)

def readHandle (name : String) (start : Mark) (c : Cursor) : Except Flaw (String × Cursor) :=
  let context := s!"while scanning a {name}"
  if c.peek ≠ '!' then c.refuse context start "'!'"
  else if c.peekAt 1 = ' ' then .ok ("!", c.next)
  else
    let (word, after) := c.next.cut isWordChar
    if after.peek ≠ '!' then after.refuse context start "'!'"
    else .ok (String.ofList ('!' :: word ++ ['!']), after.next)

def readTag (c : Cursor) : Except Flaw (WrittenTag × Cursor) := do
  let start := c.mark
  let (tag, c) ←
    if c.peekAt 1 = '<' then do
      let (suffix, c) ← readUri "tag" start (c.skip 2)
      if c.peek ≠ '>' then c.refuse "while parsing a tag" start "'>'"
      else pure (WrittenTag.mk none suffix, c.next)
    else if isApart (c.peekAt 1) then pure (WrittenTag.mk none "!", c.next)
    else do
      let (handle, c) ←
        if (c.next.rest.takeWhile (!isSpaceOrEnd ·)).contains '!' then readHandle "tag" start c else pure ("!", c.next)
      let (suffix, c) ← readUri "tag" start c
      pure (WrittenTag.mk (some handle) suffix, c)
  if isSpaceOrEnd c.peek then return (tag, c) else c.refuse "while scanning a tag" start "' '"

def endsName (c : Char) : Bool :=
  isApart c || ['?', ':', ',', ']', '\x7d', '%', '@', Char.ofNat 96].contains c

def readName (name : String) (c : Cursor) : Except Flaw (String × Cursor) :=
  let start := c.mark
  let context := s!"while scanning an {name}"
  let (word, c) := c.next.cut isWordChar
  if word.isEmpty || !endsName c.peek then c.refuse context start "alphabetic or numeric character"
  else .ok (String.ofList word, c)

def directiveContext : String := "while scanning a directive"

def readVersionNumber (start : Mark) (c : Cursor) : Except Flaw (Nat × Cursor) :=
  match c.cut Char.isDigit with
  | ([], c) => c.refuse directiveContext start "a digit"
  | (digits, c) => .ok (digits.foldl (fun n d => n * 10 + (d.toNat - '0'.toNat)) 0, c)

def readVersion (start : Mark) (c : Cursor) : Except Flaw (Directive × Cursor) := do
  let (major, c) ← readVersionNumber start c.skipSpaces
  if c.peek ≠ '.' then c.refuse directiveContext start "a digit or '.'"
  else do
    let (_, c) ← readVersionNumber start c.next
    if isSpaceOrEnd c.peek then return (.version major, c) else c.refuse directiveContext start "a digit or ' '"

def readHandleDirective (start : Mark) (c : Cursor) : Except Flaw (Directive × Cursor) := do
  let (handle, c) ← readHandle "directive" start c.skipSpaces
  if c.peek ≠ ' ' then c.refuse directiveContext start "' '"
  else do
    let (stands, c) ← readUri "directive" start c.skipSpaces
    if isSpaceOrEnd c.peek then return (.handle handle stands, c) else c.refuse directiveContext start "' '"

def readDirective (c : Cursor) : Except Flaw (Directive × Cursor) := do
  let start := c.mark
  let (name, c) := c.next.cut isWordChar
  if name.isEmpty || !isSpaceOrEnd c.peek then
    c.refuse directiveContext start "alphabetic or numeric character"
  else
    let (directive, c) ← match String.ofList name with
      | "YAML" => readVersion start c
      | "TAG" => readHandleDirective start c
      | _ => pure (.unknown, c.skipWhile (!isLineEnd ·))
    return (directive, ← c.endLine directiveContext start)

end Preflight.Yaml
