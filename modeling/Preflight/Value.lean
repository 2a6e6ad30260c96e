import Preflight.Calendar
import Preflight.Number.Decimal
import Preflight.Number.Numeral
import Preflight.Text.Quoted

/-!
Dynamic values: what a mission document, a settings file or a request body holds before it is checked. A mapping
keeps its keys in the order in which they first came; `literal` writes a value with its texts quoted.
-/
namespace Preflight

inductive Value where
  | null
  | boolean (b : Bool)
  | whole (n : Int)
  | real (x : Float)
  | text (s : String)
  | list (items : List Value)
  | mapping (entries : List (String × Value))
  | table (entries : List (Value × Value))
  | row (items : List Value)
  | set (members : List Value)
  | octets (bytes : List UInt8)
  | date (d : Date)
  | moment (m : Moment)
  | around (isList : Bool)
  deriving Inhabited

namespace Value

def kind : Value → String
  | null => "NoneType"
  | boolean _ => "bool"
  | whole _ => "int"
  | real _ => "float"
  | text _ => "str"
  | list _ | around true => "list"
  | mapping _ | table _ | around false => "dict"
  | row _ => "tuple"
  | set _ => "set"
  | octets _ => "bytes"
  | date _ => "datetime.date"
  | moment _ => "datetime.datetime"

def bareKind : Value → String
  | date _ => "date"
  | moment _ => "datetime"
  | v => v.kind

def isGiven : Value → Bool
  | null => false
  | boolean b => b
  | whole n => n != 0
  | real x => x != 0.0
  | text s => !s.isEmpty
  | list items | row items | set items => !items.isEmpty
  | mapping entries => !entries.isEmpty
  | table entries => !entries.isEmpty
  | octets bytes => !bytes.isEmpty
  | date _ | moment _ | around _ => true

mutual

def literal : Value → String
  | null => "None"
  | boolean b => if b then "True" else "False"
  | whole n => toString n
  | real x => Decimal.toText x
  | text s => Text.quoted s
  | list items => "[" ++ literalItems items ++ "]"
  | mapping entries => "\x7b" ++ literalEntries entries ++ "\x7d"
  | table entries => "\x7b" ++ literalRows entries ++ "\x7d"
  | row [v] => "(" ++ v.literal ++ ",)"
  | row items => "(" ++ literalItems items ++ ")"
  | set [] => "set()"
  | set members => "\x7b" ++ literalItems members ++ "\x7d"
  | octets bytes => Text.quotedOctets bytes
  | date d => d.literal
  | moment m => m.literal
  | around isList => if isList then "[...]" else "\x7b...\x7d"

def literalItems : List Value → String
  | [] => ""
  | [v] => v.literal
  | v :: rest => v.literal ++ ", " ++ literalItems rest

def literalEntries : List (String × Value) → String
  | [] => ""
  | [(k, v)] => Text.quoted k ++ ": " ++ v.literal
  | (k, v) :: rest => Text.quoted k ++ ": " ++ v.literal ++ ", " ++ literalEntries rest

def literalRows : List (Value × Value) → String
  | [] => ""
  | [(k, v)] => k.literal ++ ": " ++ v.literal
  | (k, v) :: rest => k.literal ++ ": " ++ v.literal ++ ", " ++ literalRows rest

end

def display : Value → String
  | text s => s
  | date d => d.iso
  | moment m => m.iso
  | v => v.literal

mutual

/-- Whether the literal of a value has a whole number that is too long to be written. -/
def holdsLong : Value → Bool
  | whole n => Numeral.isLong n
  | list items | row items | set items => anyLong items
  | mapping entries => anyLongEntry entries
  | table rows => anyLongRow rows
  | _ => false

def anyLong : List Value → Bool
  | [] => false
  | v :: rest => v.holdsLong || anyLong rest

def anyLongEntry : List (String × Value) → Bool
  | [] => false
  | (_, v) :: rest => v.holdsLong || anyLongEntry rest

def anyLongRow : List (Value × Value) → Bool
  | [] => false
  | (k, v) :: rest => k.holdsLong || v.holdsLong || anyLongRow rest

end

theorem holdsLong_list (items : List Value) : (list items).holdsLong = items.any holdsLong := by
  rw [holdsLong]
  induction items with
  | nil => rfl
  | cons v rest ih => rw [anyLong, ih, List.any_cons]

theorem holdsLong_mapping (entries : List (String × Value)) :
    (mapping entries).holdsLong = entries.any fun e => e.2.holdsLong := by
  rw [holdsLong]
  induction entries with
  | nil => rfl
  | cons e rest ih => rw [anyLongEntry, ih, List.any_cons]

end Value

abbrev Entries := List (String × Value)

namespace Entries

def get? (entries : Entries) (key : String) : Option Value :=
  (entries.find? (·.1 == key)).map (·.2)

def insert (entries : Entries) (key : String) (value : Value) : Entries :=
  match entries with
  | [] => [(key, value)]
  | (k, v) :: rest => if k == key then (k, value) :: rest else (k, v) :: insert rest key value

def ofList (pairs : List (String × Value)) : Entries := pairs.foldl (fun es e => es.insert e.1 e.2) []

theorem forall_insert {P : Value → Prop} {entries : Entries} {key : String} {value : Value}
    (h : ∀ e ∈ entries, P e.2) (hvalue : P value) : ∀ e ∈ entries.insert key value, P e.2 := by
  induction entries with
  | nil => simpa [insert] using hvalue
  | cons e rest ih =>
    rw [List.forall_mem_cons] at h
    rw [insert]
    split
    · exact List.forall_mem_cons.mpr ⟨hvalue, h.2⟩
    · exact List.forall_mem_cons.mpr ⟨h.1, ih h.2⟩

theorem forall_ofList {P : Value → Prop} {pairs : List (String × Value)} (h : ∀ e ∈ pairs, P e.2) :
    ∀ e ∈ ofList pairs, P e.2 := by
  have later (done : Entries) (hdone : ∀ e ∈ done, P e.2) :
      ∀ e ∈ pairs.foldl (fun es e => Entries.insert es e.1 e.2) done, P e.2 := by
    induction pairs generalizing done with
    | nil => exact hdone
    | cons e rest ih =>
      rw [List.forall_mem_cons] at h
      exact ih h.2 _ (forall_insert hdone h.1)
  exact later [] nofun

end Entries

end Preflight
