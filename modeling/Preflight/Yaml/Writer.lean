import Preflight.Yaml.Writer.Text

namespace Preflight.Yaml.Writer

def step : Nat := 2

def tagText (tag : Tag) : List Char :=
  let name := tag.name
  if name.startsWith Tag.home then '!' :: '!' :: name.toList.drop Tag.home.length
  else "!<".toList ++ name.toList ++ ['>']

def nameText (n : Nat) : List Char := "id".toList ++ Decimal.padded 3 (Decimal.digits n)

def keyLimit : Nat := 128

structure Page where
  output : Output := {}
  numbers : List (Nat × Nat) := []
  done : List Nat := []

namespace Page

def map (p : Page) (f : Output → Output) : Page := { p with output := f p.output }

def number? (p : Page) (f : Form) : Option Nat := f.mark.bind fun m => p.numbers.lookup m

def isDone (p : Page) (f : Form) : Bool := f.mark.any fun m => p.done.contains m

def fitsKey (p : Page) (f : Form) : Bool :=
  let name := ((p.number? f).map fun n => (nameText n).length).getD 0
  if p.isDone f then name < keyLimit
  else match f with
    | .scalar _ tag text _ =>
      name + (tagText tag).length + text.length < keyLimit && !text.isEmpty && !text.toList.any isLineEnd
    | .sequence _ tag items => name + (tagText tag).length < keyLimit && items.isEmpty
    | .mapping _ tag entries => name + (tagText tag).length < keyLimit && entries.isEmpty

def putProperties (p : Page) (f : Form) (shows : Bool) : Page :=
  let p := match p.number? f with
    | some n => p.map (·.putMark ('&' :: nameText n) true)
    | none => p
  let p := if shows then p else p.map (·.putMark (tagText f.tag) true)
  { p with done := f.mark.toList ++ p.done }

end Page

mutual

/-- Writes a form. `indent` is the column of the block around it, if there is one; `inMapping` says that it is the
key or the value of an entry, `isKey` that it stands before a colon on its line. -/
def putForm (inMapping isKey : Bool) (indent : Option Nat) (p : Page) (f : Form) : Page :=
  match if p.isDone f then p.number? f else none with
  | some n => p.map (·.putMark ('*' :: nameText n) true)
  | none =>
    let inner := (indent.map (· + step)).getD 0
    match f with
    | .scalar mark tag text isBlock =>
      let style := styleOf isKey tag text isBlock
      (p.putProperties (.scalar mark tag text isBlock) (showsTag tag text style)).map fun o =>
        putText isKey ((indent.map (· + step)).getD step) o style text.toList
    | .sequence mark tag [] =>
      (p.putProperties (.sequence mark tag []) (tag == .sequence)).map fun o =>
        (o.putOpening '[').putMark [']'] false
    | .mapping mark tag [] =>
      (p.putProperties (.mapping mark tag []) (tag == .mapping)).map fun o =>
        (o.putOpening '\x7b').putMark ['\x7d'] false
    | .sequence mark tag (item :: items) =>
      let p := p.putProperties (.sequence mark tag (item :: items)) (tag == .sequence)
      putItems (if inMapping && !p.output.inIndent then indent.getD 0 else inner) p (item :: items)
    | .mapping mark tag (entry :: entries) =>
      let p := p.putProperties (.mapping mark tag (entry :: entries)) (tag == .mapping)
      putEntries inner p (entry :: entries)

def putItems (column : Nat) (p : Page) : List Form → Page
  | [] => p
  | f :: rest =>
    let p := p.map fun o => (o.indentTo column).putEntryMark '-'
    putItems column (putForm false false (some column) p f) rest

def putEntries (column : Nat) (p : Page) : List (Form × Form) → Page
  | [] => p
  | (k, v) :: rest =>
    let p := p.map (·.indentTo column)
    let p :=
      if p.fitsKey k then
        (putForm true true (some column) p k).map (·.putMark [':'] false)
      else
        let p := putForm true false (some column) (p.map (·.putEntryMark '?')) k
        p.map fun o => (o.indentTo column).putEntryMark ':'
    putEntries column (putForm true false (some column) p v) rest

end

def render (tree : Tree) : String :=
  let form := Form.ofTree tree
  let page : Page := { numbers := (form.namesIn {}).numbers }
  ((putForm false false none page form).output.indentTo 0).toText

end Preflight.Yaml.Writer
