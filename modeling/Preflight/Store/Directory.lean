import Preflight.Document.Plan
import Preflight.Json.Writer
import Preflight.Store.Memory

/-!
The directory store: each mission is a JSON file in one directory, named by its id. Items once loaded or stored are
kept in a cache, and the cache answers before the file does.
-/
namespace Preflight

structure DirectoryStore where
  directory : Path
  files : FileTree
  cache : List (String × List Item) := []

namespace DirectoryStore

structure Done (α : Type) where
  result : Except Fault α
  notes : List Log.Line := []
  store : DirectoryStore

def note (message : String) : Log.Line := Log.line Log.info .store message

def directoryOf (text : String) (home : Option String) : Except Fault Path :=
  match (Path.ofText text).expandHome home with
  | some path => .ok path
  | none => .error .noHome

def openAt (files : FileTree) (text : String) (home : Option String) : Except Fault DirectoryStore := do
  let directory ← directoryOf text home
  return { directory, files := ← files.makeDirectories directory }

def openNotes (store : DirectoryStore) : List Log.Line :=
  [note s!"Mission store initialized at {store.directory.toText}"]

def pathOf (store : DirectoryStore) (id : String) : String := (store.directory.child (id ++ ".json")).toText

def cached? (store : DirectoryStore) (id : String) : Option (List Item) := store.cache.lookup id

def remember (store : DirectoryStore) (id : String) (items : List Item) : DirectoryStore :=
  { store with cache := (id, items) :: store.cache.filter (·.1 != id) }

def forget (store : DirectoryStore) (id : String) : DirectoryStore :=
  { store with cache := store.cache.filter (·.1 != id) }

def clearCache (store : DirectoryStore) : DirectoryStore := { store with cache := [] }

def isUnreadable : Fault → Bool
  | .malformedJson .. => true
  | fault => fault.isAmong [.file, .operation, .invalid]

def itemsInFile (store : DirectoryStore) (id : String) : Except Fault (List Item) := do
  Item.listOfValue (← (← store.files.readJson (store.pathOf id)).getD "items" (.list []))

def unreadable (id : String) (fault : Fault) : Fault :=
  if isUnreadable fault then .storage s!"cannot read mission '{id}': {fault.message}" else fault

def load (store : DirectoryStore) (id : String) : Except Fault (List Item) × DirectoryStore :=
  match store.cached? id with
  | some items => (.ok items, store)
  | none =>
    match store.itemsInFile id with
    | .ok items => (.ok items, store.remember id items)
    | .error fault => (.error (unreadable id fault), store)

def read : Source DirectoryStore := fun id index store =>
  let (loaded, store) := store.load id
  (loaded.bind (itemAt id index), store)

def get? (store : DirectoryStore) (id : String) : Done (Option Mission) :=
  match store.load id with
  | (.ok items, store) => { result := .ok (some (MemoryStore.handle id items)), store }
  | (.error (.storage reason), store) =>
    { result := .ok none
      notes := [Log.line Log.error .store s!"Failed to load mission {id}: {reason}"]
      store }
  | (.error fault, store) => { result := .error fault, store }

def insert (store : DirectoryStore) (id : String) (items : List Item) : Done Mission :=
  match store.files.write (store.pathOf id) (Utf8.octets (Json.pretty (Item.listToValue items))) with
  | .error fault => { result := .error fault, store }
  | .ok files =>
    { result := .ok (MemoryStore.handle id items)
      notes := [note s!"Stored mission {id} ({items.length} items)"]
      store := { store.remember id items with files } }

def list (store : DirectoryStore) : List String :=
  let names := (store.files.namesIn store.directory.toText).filter (·.endsWith ".json")
  (names.map Path.stem).mergeSort (· ≤ ·)

def erase (store : DirectoryStore) (id : String) : Done Bool :=
  match store.files.exists? (store.pathOf id) with
  | .error fault => { result := .error fault, store }
  | .ok false => { result := .ok false, store }
  | .ok true =>
    match store.files.remove (store.pathOf id) with
    | .error fault => { result := .error fault, store := store.forget id }
    | .ok files =>
      { result := .ok true
        notes := [note s!"Deleted mission {id}"]
        store := { store.forget id with files } }

end DirectoryStore

end Preflight
