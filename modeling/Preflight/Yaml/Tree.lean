import Preflight.Value.Access

namespace Preflight.Yaml

inductive Tree where
  | leaf (mark : Option Nat) (v : Value)
  | list (mark : Option Nat) (items : List Tree)
  | pairs (mark : Option Nat) (rows : List (Tree × Tree))
  | mapping (mark : Option Nat) (entries : List (Tree × Tree))
  | set (mark : Option Nat) (members : List Tree)
  deriving Inhabited

namespace Tree

def null : Tree := leaf none .null

def text (s : String) : Tree := leaf none (.text s)

def tableOf (entries : List (Value × Value)) : Value :=
  let named := entries.filterMap fun e =>
    match e.1 with
    | .text key => some (key, e.2)
    | _ => none
  if named.length = entries.length then .mapping named else .table entries

mutual

def toValue : Tree → Value
  | leaf _ v => v
  | list _ items => .list (toValues items)
  | pairs _ rows => .list ((toEntries rows).map fun row => .row [row.1, row.2])
  | mapping _ entries => tableOf (toEntries entries)
  | set _ members => .set (toValues members)

def toValues : List Tree → List Value
  | [] => []
  | t :: rest => t.toValue :: toValues rest

def toEntries : List (Tree × Tree) → List (Value × Value)
  | [] => []
  | (k, t) :: rest => (k.toValue, t.toValue) :: toEntries rest

end

mutual

def ofValue : Value → Tree
  | .list items => list none (ofValues items)
  | .mapping entries => mapping none (ofEntries entries)
  | .table entries => mapping none (ofRows entries)
  | v => leaf none v

def ofValues : List Value → List Tree
  | [] => []
  | v :: rest => ofValue v :: ofValues rest

def ofEntries : List (String × Value) → List (Tree × Tree)
  | [] => []
  | (k, v) :: rest => (text k, ofValue v) :: ofEntries rest

def ofRows : List (Value × Value) → List (Tree × Tree)
  | [] => []
  | (k, v) :: rest => (ofValue k, ofValue v) :: ofRows rest

end

def isGiven : Tree → Bool
  | leaf _ v => v.isGiven
  | list _ items | set _ items => !items.isEmpty
  | pairs _ rows | mapping _ rows => !rows.isEmpty

def kind : Tree → String
  | leaf _ v => v.kind
  | list .. | pairs .. => "list"
  | mapping .. => "dict"
  | set .. => "set"

end Tree

/-! Keys -/

def numberKey? : Value → Option (Int ⊕ Float)
  | .boolean b => some (.inl (if b then 1 else 0))
  | .whole n => some (.inl n)
  | .real x => some (.inr x)
  | _ => none

def sameNumber : Int ⊕ Float → Int ⊕ Float → Bool
  | .inl m, .inl n => m == n
  | .inr x, .inr y => x == y || (x != x && y != y)
  | .inl n, .inr x | .inr x, .inl n => Double.compareWhole x n == some .eq

def sameKey (a b : Value) : Bool :=
  match a, b with
  | .null, .null => true
  | .text s, .text t => s == t
  | .octets s, .octets t => s == t
  | .date d, .date e => d == e
  | .moment m, .moment n => m.same n
  | a, b =>
    match numberKey? a, numberKey? b with
    | some x, some y => sameNumber x y
    | _, _ => false

def insertKey {α β : Type} (key : α → Value) (entries : List (α × β)) (k : α) (b : β) : List (α × β) :=
  match entries with
  | [] => [(k, b)]
  | (k', b') :: rest =>
    if sameKey (key k') (key k) then (k', b) :: rest else (k', b') :: insertKey key rest k b

end Preflight.Yaml
