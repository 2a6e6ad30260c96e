import Preflight.Proofs.Store.Runs

namespace Preflight

inductive Event where
  | own (act : Act)
  | outside (files : FileTree)

/-- Acts that neither take a mission out of the cache nor put another in its place; a new mission has an id of its own. -/
def Act.Spares (id : String) : Act → Prop
  | create other _ | erase other => other ≠ id
  | get _ | read _ _ | list => True
  | clearCache | reopen => False

def Event.Spares (id : String) : Event → Prop
  | own act => act.Spares id
  | outside _ => True

namespace DirectoryStore

variable {text : String} {home : Option String} {store : DirectoryStore} {id : String} {items : List Item}

def befall (text : String) (home : Option String) (store : DirectoryStore) : Event → DirectoryStore
  | .own act => (act.perform text home store).2
  | .outside files => { store with files }

def after (text : String) (home : Option String) (store : DirectoryStore) (events : List Event) : DirectoryStore :=
  events.foldl (befall text home) store

theorem directory_befall (named : directoryOf text home = .ok store.directory) (event : Event) :
    (befall text home store event).directory = store.directory := by
  cases event with
  | outside files => rfl
  | own act =>
    cases act with
    | create id items => exact directory_insert store id items
    | get id => exact directory_get? store id
    | read id index => exact directory_load store id
    | list => rfl
    | erase id => exact directory_erase store id
    | clearCache => rfl
    | reopen =>
      rw [befall, Act.perform]
      split
      next again opened => exact Except.ok.inj ((directory_openAt opened).symm.trans named)
      next => rfl

theorem directory_after (named : directoryOf text home = .ok store.directory) (events : List Event) :
    (after text home store events).directory = store.directory := by
  induction events generalizing store with
  | nil => rfl
  | cons event rest ih =>
    have same := directory_befall named event
    exact (ih (same ▸ named)).trans same

theorem read_eq (id : String) (index : Int) (store : DirectoryStore) :
    read id index store = ((store.load id).1.bind (itemAt id index), (store.load id).2) := rfl

def handleOf (id : String) : Except Fault (List Item) → Except Fault (Option Mission)
  | .ok items => .ok (some (MemoryStore.handle id items))
  | .error (.storage _) => .ok none
  | .error fault => .error fault

theorem result_get? (store : DirectoryStore) (id : String) :
    (store.get? id).result = handleOf id (store.load id).1 := by
  unfold get?
  split
  next loaded => rw [loaded, handleOf]
  next loaded => rw [loaded, handleOf]
  next other loaded =>
    rw [loaded, handleOf]
    exact other

theorem handleOf_other {fault : Fault} (other : ∀ reason, fault ≠ .storage reason) :
    handleOf id (.error fault) = .error fault := by
  rw [handleOf]
  exact other

section

variable {store' : DirectoryStore}

theorem load_congr (cached : store.cached? id = store'.cached? id)
    (file : store.files.read (store.pathOf id) = store'.files.read (store'.pathOf id)) :
    (store.load id).1 = (store'.load id).1 := by
  have inFile : store.itemsInFile id = store'.itemsInFile id := by
    unfold itemsInFile FileTree.readJson
    rw [file]
  unfold load
  rw [cached, inFile]
  cases store'.cached? id with
  | some items => rfl
  | none => cases store'.itemsInFile id <;> rfl

theorem get?_of_load (same : (store.load id).1 = (store'.load id).1) :
    (store.get? id).result = (store'.get? id).result ∧ (store.get? id).notes = (store'.get? id).notes := by
  unfold get?
  rcases hload : store.load id with ⟨answer, after⟩
  rcases hload' : store'.load id with ⟨answer', after'⟩
  rw [hload, hload'] at same
  obtain rfl : answer = answer' := same
  cases answer with
  | ok items => exact ⟨rfl, rfl⟩
  | error fault => cases fault <;> exact ⟨rfl, rfl⟩

end

theorem cached?_load (held : store.cached? id = some items) (other : String) :
    (store.load other).2.cached? id = some items := by
  cases store.loads other with
  | cached kept _ loaded => rwa [loaded]
  | found kept uncached _ loaded =>
    have apart : id ≠ other := by
      rintro rfl
      cases uncached.symm.trans held
    rw [loaded, cached?_remember, if_neg apart]
    exact held
  | failed fault _ _ loaded => rwa [loaded]

theorem cached?_insert {other : String} (apart : other ≠ id) (held : store.cached? id = some items)
    (more : List Item) : (store.insert other more).store.cached? id = some items := by
  unfold insert
  split
  · exact held
  · change (store.remember other more).cached? id = some items
    rw [cached?_remember, if_neg (Ne.symm apart)]
    exact held

theorem cached?_erase {other : String} (apart : other ≠ id) (held : store.cached? id = some items) :
    (store.erase other).store.cached? id = some items := by
  have forgotten : (store.forget other).cached? id = some items := by
    rw [cached?_forget, if_neg (Ne.symm apart)]
    exact held
  unfold erase
  split
  · exact held
  · exact held
  · split
    · exact forgotten
    · exact forgotten

theorem cached?_befall {event : Event} (spares : event.Spares id) (held : store.cached? id = some items) :
    (befall text home store event).cached? id = some items := by
  cases event with
  | outside files => exact held
  | own act =>
    cases act with
    | create other more => exact cached?_insert spares held more
    | get other =>
      change (store.get? other).store.cached? id = some items
      rw [store_get?]
      exact cached?_load held other
    | read other index => exact cached?_load held other
    | list => exact held
    | erase other => exact cached?_erase spares held
    | clearCache => exact False.elim spares
    | reopen => exact False.elim spares

theorem cached?_after {events : List Event} (spares : ∀ event ∈ events, event.Spares id)
    (held : store.cached? id = some items) : (after text home store events).cached? id = some items := by
  induction events generalizing store with
  | nil => exact held
  | cons event rest ih =>
    rw [List.forall_mem_cons] at spares
    exact ih spares.2 (cached?_befall spares.1 held)

end DirectoryStore

end Preflight
