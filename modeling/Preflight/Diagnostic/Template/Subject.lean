import Preflight.Diagnostic.Template.Filling
import Preflight.Value.Access

namespace Preflight.Template

inductive Subject where
  | value (v : Value)
  | kind (name : String)
  deriving Inhabited

namespace Subject

def text (s : String) : Subject := value (.text s)

def display : Subject → String
  | value v => v.display
  | kind name => s!"<class '{name}'>"

def literal : Subject → String
  | value v => v.literal
  | s => s.display

def widerKind : String → Option String
  | "object" => none
  | "bool" => some "int"
  | _ => some "object"

def partOfKind (kind name : String) : Except Fault Subject :=
  match name with
  | "__name__" | "__qualname__" => .ok (text kind)
  | "__module__" => .ok (text "builtins")
  | "__class__" => .ok (.kind "type")
  | "__base__" => .ok (((widerKind kind).map Subject.kind).getD (value .null))
  | name => .error (.kindOperation kind name)

def partOfWhole (n : Int) : String → Option Value
  | "real" | "numerator" => some (.whole n)
  | "imag" => some (.whole 0)
  | "denominator" => some (.whole 1)
  | _ => none

def partOfValue : Value → String → Option Value
  | .whole n, name => partOfWhole n name
  | .boolean b, name => partOfWhole (if b then 1 else 0) name
  | .real x, "real" => some (.real x)
  | .real _, "imag" => some (.real 0.0)
  | _, _ => none

def part (s : Subject) (name : String) : Except Fault Subject :=
  match s with
  | kind k => partOfKind k name
  | value v =>
    if name = "__class__" then .ok (kind v.kind)
    else match partOfValue v name with
      | some part => .ok (value part)
      | none => .error (.noOperation v.kind name)

def elementAt (s : Subject) (n : Nat) : Except Fault Subject :=
  match s with
  | kind k => .error (.kindSubscript k)
  | value (.list items) =>
    match items[n]? with
    | some v => .ok (value v)
    | none => .error .beyondList
  | value (.text t) =>
    match t.toList[n]? with
    | some c => .ok (text (String.singleton c))
    | none => .error .beyondText
  | value (.mapping _) => .error (.missingNumber n)
  | value v => .error (.notSubscriptable v.kind)

def elementUnder (s : Subject) (key : String) : Except Fault Subject :=
  match s with
  | kind k => .error (.kindSubscript k)
  | value v => value <$> v.field key

def format (s : Subject) (spec : List Char) : Except Fault String :=
  match s with
  | value v => Template.format v spec
  | s => if spec.isEmpty then .ok s.display else .error (.unformattable "type")

def convert (s : Subject) (conversion : Char) : Except Fault Subject :=
  match conversion with
  | 's' => .ok (text s.display)
  | 'r' => .ok (text s.literal)
  | 'a' => .ok (text (Text.withinAscii s.literal))
  | c => malformed s!"Unknown conversion specifier {shown 127 c}"

def numberIn? (cs : List Char) : Except Fault (Option Nat) := do
  match ← readNumber none cs with
  | (number, []) => return number
  | _ => return none

def follow : Nat → Subject → List Char → Except Fault Subject
  | 0, s, _ => .ok s
  | _ + 1, s, [] => .ok s
  | fuel + 1, s, '.' :: cs => do
    let name := cs.takeWhile fun c => c != '.' && c != '['
    if name.isEmpty then malformed "Empty attribute in format string"
    follow fuel (← s.part (String.ofList name)) (cs.drop name.length)
  | fuel + 1, s, '[' :: cs => do
    let key := cs.takeWhile (· != ']')
    let number ← numberIn? key
    if key.isEmpty then malformed "Empty attribute in format string"
    let element ← match number with
      | some n => s.elementAt n
      | none => s.elementUnder (String.ofList key)
    follow fuel element (cs.drop (key.length + 1))
  | _, _, _ => malformed "Only '.' or '[' may follow ']' in format field specifier"

end Subject

end Preflight.Template
