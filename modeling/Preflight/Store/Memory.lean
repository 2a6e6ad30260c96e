import Preflight.Check.Scan
import Preflight.Lookup
import Preflight.Text.Quoted

namespace Preflight

structure Ids where
  taken : Nat := 0
  deriving DecidableEq, Repr

namespace Ids

def groups (digits : List Char) : List (List Char) :=
  [digits.take 8, (digits.drop 8).take 4, (digits.drop 12).take 4, (digits.drop 16).take 4, digits.drop 20]

def ofNumber (n : Nat) : String :=
  String.intercalate "-" ((groups (Text.hexDigits 32 n)).map String.ofList)

def next (ids : Ids) : String × Ids := (ofNumber (ids.taken + 1), ⟨ids.taken + 1⟩)

end Ids

structure MemoryStore where
  missions : List (String × List Item) := []

namespace MemoryStore

def find? (store : MemoryStore) (id : String) : Option (List Item) := store.missions.lookup id

def insert (store : MemoryStore) (id : String) (items : List Item) : MemoryStore :=
  ⟨(id, items) :: store.missions.filter (·.1 != id)⟩

def handle (id : String) (items : List Item) : Mission := ⟨items.length, id⟩

end MemoryStore

def itemAt (id : String) (index : Int) (items : List Item) : Except Fault Item :=
  match (if index < 0 then none else items[index.toNat]?) with
  | some item => .ok item
  | none => .error (.storage s!"item index {index} out of range for '{id}'")

namespace MemoryStore

def item (store : MemoryStore) (id : String) (index : Int) : Except Fault Item :=
  match store.find? id with
  | some items => itemAt id index items
  | none => .error (.storage s!"unknown mission storage '{id}'")

def read : Source MemoryStore := fun id index store => (store.item id index, store)

theorem find?_insert_self (store : MemoryStore) (id : String) (items : List Item) :
    (store.insert id items).find? id = some items := by
  simp [insert, find?]

theorem find?_insert_of_ne (store : MemoryStore) {id other : String} (h : other ≠ id) (items : List Item) :
    (store.insert id items).find? other = store.find? other := by
  have unequal : (other == id) = false := beq_false_of_ne h
  rw [insert, find?, find?, List.lookup_cons, unequal]
  exact lookup_without_of_ne h

end MemoryStore

end Preflight
