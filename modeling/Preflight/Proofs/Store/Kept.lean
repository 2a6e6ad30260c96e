import Preflight.Proofs.Document.Written
import Preflight.Proofs.Pass.Stored
import Preflight.Proofs.Store.Names
import Preflight.Proofs.Text.Utf8

namespace Preflight

def written (items : List Item) : List UInt8 := Utf8.octets (Json.pretty (Item.listToValue items))

def ReadsBack (items : List Item) : Prop :=
  (do Json.parse (← Utf8.text (written items))) = .ok (Item.listToValue items)

theorem readsBack_of_parse {items : List Item}
    (h : Json.parse (Utf8.unifyLineEnds (Json.pretty (Item.listToValue items)).toList) = .ok (Item.listToValue items)) :
    ReadsBack items := by
  rw [ReadsBack, written, Utf8.text_octets, Fault.ok_bind]
  exact h

namespace DirectoryStore

variable {store : DirectoryStore} {id text : String} {items : List Item} {home : Option String}

theorem directory_openAt {files : FileTree} (opened : openAt files text home = .ok store) :
    directoryOf text home = .ok store.directory := by
  obtain ⟨directory, found, opened⟩ := Fault.bind_ok opened
  obtain ⟨made, -, opened⟩ := Fault.bind_ok opened
  obtain rfl := Except.ok.inj opened
  exact found

theorem directoryOf_name {name : String} (h : FileTree.IsFileName name) (tilde : ¬ ['~'] <+: name.toList) :
    directoryOf name home = .ok ⟨"", [name]⟩ := by
  have other : name.startsWith "~" = false := by
    rw [Bool.eq_false_iff, ne_eq, String.startsWith_string_iff]
    exact tilde
  have kept : (⟨"", [name]⟩ : Path).expandHome home = some ⟨"", [name]⟩ := by simp [Path.expandHome, other]
  rw [directoryOf, Path.ofText_of_isName h.toIsName, kept]

theorem openAt_name {files : FileTree} {name : String} (h : FileTree.IsFileName name)
    (tilde : ¬ ['~'] <+: name.toList) (stands : files.node? files.workingDirectory = some .directory)
    (free : files.node? (files.workingDirectory ++ [name]) = none) :
    openAt files name home =
      .ok { directory := ⟨"", [name]⟩, files := files.put (files.workingDirectory ++ [name]) .directory } := by
  rw [openAt, directoryOf_name h tilde, Fault.ok_bind, FileTree.makeDirectories_name h stands free]
  rfl

theorem isPlain_of_directoryOf {directory : Path} (h : directoryOf text home = .ok directory) : directory.IsPlain := by
  unfold directoryOf at h
  split at h
  next path found =>
    obtain rfl := Except.ok.inj h
    exact Path.isPlain_expandHome found (Path.isPlain_ofText text)
  next => cases h

structure IsOpen (text : String) (home : Option String) (store : DirectoryStore) : Prop where
  directory : directoryOf text home = .ok store.directory
  stands : store.files.isDirectory store.directory.toText = true

theorem isOpen_of_openAt {files : FileTree} (opened : openAt files text home = .ok store) : store.IsOpen text home := by
  refine ⟨directory_openAt opened, ?_⟩
  obtain ⟨directory, -, opened⟩ := Fault.bind_ok opened
  obtain ⟨made, hmade, opened⟩ := Fault.bind_ok opened
  obtain rfl := Except.ok.inj opened
  exact FileTree.isDirectory_iff.mpr (FileTree.stands_of_makeDirectories hmade)

theorem openAt_again {place : List String} (stands : store.files.Stands store.directory.toText place)
    (hdirectory : directoryOf text home = .ok store.directory) :
    openAt store.files text home = .ok { store with cache := [] } := by
  rw [openAt, hdirectory, Fault.ok_bind, FileTree.makeDirectories_of_stands stands]
  rfl

structure Keeps (store : DirectoryStore) (id : String) (items : List Item) : Prop where
  file : store.files.read (store.pathOf id) = .ok (written items)
  cache : ∀ kept, store.cached? id = some kept → kept = items
  readsBack : ReadsBack items

theorem cached?_remember (store : DirectoryStore) (id other : String) (items : List Item) :
    (store.remember id items).cached? other = if other = id then some items else store.cached? other :=
  lookup_put store.cache id other items

theorem Keeps.itemsInFile (h : store.Keeps id items) : store.itemsInFile id = .ok items := by
  have value : store.files.readJson (store.pathOf id) = .ok (Item.listToValue items) := by
    rw [FileTree.readJson, h.file, Fault.ok_bind]
    exact h.readsBack
  rw [DirectoryStore.itemsInFile, value, Fault.ok_bind]
  exact Item.listOfValue_written items

theorem Keeps.remember (h : store.Keeps id items) : (store.remember id items).Keeps id items where
  file := h.file
  cache := by
    intro kept hkept
    rw [cached?_remember, if_pos rfl] at hkept
    exact (Option.some.inj hkept).symm
  readsBack := h.readsBack

theorem Keeps.withoutCache (h : store.Keeps id items) : { store with cache := [] }.Keeps id items where
  file := h.file
  cache := nofun
  readsBack := h.readsBack

inductive Loads (store : DirectoryStore) (id : String) : Prop
  | cached (items : List Item) (held : store.cached? id = some items) (loaded : store.load id = (.ok items, store))
  | found (items : List Item) (uncached : store.cached? id = none) (inFile : store.itemsInFile id = .ok items)
    (loaded : store.load id = (.ok items, store.remember id items))
  | failed (fault : Fault) (uncached : store.cached? id = none) (inFile : store.itemsInFile id = .error fault)
    (loaded : store.load id = (.error (unreadable id fault), store))

theorem loads (store : DirectoryStore) (id : String) : store.Loads id := by
  cases cached : store.cached? id with
  | some items => exact .cached items cached (by rw [load, cached])
  | none =>
    cases inFile : store.itemsInFile id with
    | ok items => exact .found items cached inFile (by rw [load, cached, inFile])
    | error fault => exact .failed fault cached inFile (by rw [load, cached, inFile])

theorem Keeps.load (h : store.Keeps id items) :
    store.load id = (.ok items, store) ∨ store.load id = (.ok items, store.remember id items) := by
  cases store.loads id with
  | cached kept held loaded =>
    rw [h.cache kept held] at loaded
    exact .inl loaded
  | found kept _ inFile loaded =>
    obtain rfl := Except.ok.inj (h.itemsInFile.symm.trans inFile)
    exact .inr loaded
  | failed fault _ inFile _ => cases h.itemsInFile.symm.trans inFile

theorem Keeps.loaded (h : store.Keeps id items) : ∃ store', store.load id = (.ok items, store') ∧ store'.Keeps id items := by
  rcases h.load with loaded | loaded
  · exact ⟨store, loaded, h⟩
  · exact ⟨_, loaded, h.remember⟩

theorem Keeps.get? (h : store.Keeps id items) :
    (store.get? id).result = .ok (some (MemoryStore.handle id items)) ∧ (store.get? id).store.Keeps id items := by
  obtain ⟨store', loaded, after⟩ := h.loaded
  unfold DirectoryStore.get?
  rw [loaded]
  exact ⟨rfl, after⟩

theorem insert_of_place {place : List String} (there : store.files.place (store.pathOf id) = .ok place)
    (file : store.files.node? place ≠ some .directory) (items : List Item) :
    store.insert id items = { result := .ok (MemoryStore.handle id items)
                              notes := [note s!"Stored mission {id} ({items.length} items)"]
                              store := { store.remember id items with
                                files := store.files.put place (.file (written items)) } } := by
  have wrote := FileTree.write_of_place there file (written items)
  unfold insert
  rw [← written, wrote]

theorem keeps_insert {place : List String} (there : store.files.place (store.pathOf id) = .ok place)
    (file : store.files.node? place ≠ some .directory) (back : ReadsBack items) :
    (store.insert id items).store.Keeps id items := by
  have below : place ≠ [] := by
    rintro rfl
    exact file rfl
  rw [insert_of_place there file items]
  refine ⟨?_, ?_, back⟩
  · have there' := FileTree.place_of_sameDirectories (FileTree.sameDirectories_put file (.file (written items))) there
    exact FileTree.read_of_file there' (FileTree.node?_put_self below _)
  · intro kept hkept
    change (store.remember id items).cached? id = some kept at hkept
    rw [cached?_remember, if_pos rfl] at hkept
    exact (Option.some.inj hkept).symm

theorem Keeps.holds {c : Checker DirectoryStore} (hread : c.read = DirectoryStore.read) (h : store.Keeps id items) :
    c.Holds (MemoryStore.handle id items) items store := by
  refine ⟨rfl, (·.Keeps id items), h, ?_⟩
  intro index item hitem store hkept
  obtain ⟨store', loaded, after⟩ := hkept.loaded
  have found : (c.read id (index : Int)).run store = (.ok item, store') := by
    rw [hread]
    change ((store.load id).1.bind (itemAt id index), (store.load id).2) = _
    rw [loaded]
    exact Prod.ext (itemAt_eq_ok.mpr hitem) rfl
  change ((c.read id (index : Int)).run store).1 = _ ∧ ((c.read id (index : Int)).run store).2.Keeps id items
  rw [found]
  exact ⟨rfl, after⟩

end DirectoryStore

end Preflight
