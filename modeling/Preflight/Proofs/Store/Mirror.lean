import Preflight.Proofs.Store.Kept

/-!
A directory store and a plain map that hold the same missions. The files of the directory are those of the map, and
the cache holds some of them; every operation answers as it does on the map and leaves the two the same.
-/
namespace Preflight

open Ids

namespace MemoryStore

def erase (store : MemoryStore) (id : String) : MemoryStore := ⟨store.missions.filter (·.1 != id)⟩

theorem find?_insert (store : MemoryStore) (id other : String) (items : List Item) :
    (store.insert id items).find? other = if other = id then some items else store.find? other :=
  lookup_put store.missions id other items

theorem find?_erase (store : MemoryStore) (id other : String) :
    (store.erase id).find? other = if other = id then none else store.find? other := by
  unfold erase find?
  split
  next same => exact same ▸ lookup_without store.missions id
  next apart => exact lookup_without_of_ne apart

theorem erase_of_absent {store : MemoryStore} {id : String} (h : store.find? id = none) : store.erase id = store := by
  have kept : store.missions.filter (·.1 != id) = store.missions := by
    rw [List.filter_eq_self]
    intro mission hmission
    have other := List.lookup_eq_none_iff.mp h mission hmission
    rw [bne, Bool.beq_comm]
    exact other
  rw [erase, kept]

end MemoryStore

namespace DirectoryStore

structure Mirrors (store : DirectoryStore) (place : List String) (missions : MemoryStore) : Prop where
  plain : store.directory.IsPlain
  stands : store.files.Stands store.directory.toText place
  short : ∀ id, IsIdentifier id → (store.pathOf id).utf8ByteSize ≤ FileTree.longestPath
  names : store.files.namesUnder place = missions.missions.map fun mission => mission.1 ++ ".json"
  identifiers : ∀ mission ∈ missions.missions, IsIdentifier mission.1
  files : ∀ id, IsIdentifier id →
    store.files.node? (place ++ [id ++ ".json"]) = (missions.find? id).map fun items => .file (written items)
  cache : ∀ id items, store.cached? id = some items → missions.find? id = some items
  readsBack : ∀ id items, missions.find? id = some items → ReadsBack items

variable {store : DirectoryStore} {place : List String} {missions : MemoryStore} {id : String} {items : List Item}

theorem Mirrors.place_of_id (h : store.Mirrors place missions) (hid : IsIdentifier id) :
    store.files.place (store.pathOf id) = .ok (place ++ [id ++ ".json"]) :=
  FileTree.place_child h.plain h.stands.1 h.stands.2 (isFileName_file hid) (h.short id hid)

theorem Mirrors.isFile (h : store.Mirrors place missions) (hid : IsIdentifier id) :
    store.files.node? (place ++ [id ++ ".json"]) ≠ some .directory := by
  rw [h.files id hid]
  cases missions.find? id <;> simp

theorem Mirrors.withCache (h : store.Mirrors place missions) {cache : List (String × List Item)}
    (hcache : ∀ id items, cache.lookup id = some items → missions.find? id = some items) :
    { store with cache }.Mirrors place missions :=
  { h with cache := hcache }

theorem remember_mirrors (h : store.Mirrors place missions) (hfind : missions.find? id = some items) :
    (store.remember id items).Mirrors place missions := by
  apply h.withCache
  intro other items' hother
  change (store.remember id items).cached? other = some items' at hother
  rw [cached?_remember] at hother
  split at hother
  next same =>
    rw [same, hfind]
    exact hother
  next => exact h.cache other items' hother

theorem Mirrors.keeps (h : store.Mirrors place missions) (hid : IsIdentifier id) (hfind : missions.find? id = some items) :
    store.Keeps id items where
  file := by
    have file : store.files.node? (place ++ [id ++ ".json"]) = some (.file (written items)) := by
      rw [h.files id hid, hfind]
      rfl
    exact FileTree.read_of_file (h.place_of_id hid) file
  cache := by
    intro kept hkept
    have same := h.cache id kept hkept
    rw [hfind] at same
    exact (Option.some.inj same).symm
  readsBack := h.readsBack id items hfind

theorem load_of_mirrors (h : store.Mirrors place missions) (hid : IsIdentifier id)
    (hfind : missions.find? id = some items) :
    ∃ store', store.load id = (.ok items, store') ∧ store'.Mirrors place missions := by
  rcases (h.keeps hid hfind).load with loaded | loaded
  · exact ⟨store, loaded, h⟩
  · exact ⟨_, loaded, remember_mirrors h hfind⟩

theorem load_of_absent (h : store.Mirrors place missions) (hid : IsIdentifier id) (hfind : missions.find? id = none) :
    ∃ reason, store.load id = (.error (.storage reason), store) := by
  unfold load
  cases hcached : store.cached? id with
  | some kept =>
    have there := h.cache id kept hcached
    rw [hfind] at there
    cases there
  | none =>
    have file : store.files.node? (place ++ [id ++ ".json"]) = none := by
      rw [h.files id hid, hfind]
      rfl
    have read := FileTree.read_of_none (h.place_of_id hid) file
    have inFile : store.itemsInFile id = .error (.file .missing (store.pathOf id)) := by
      rw [itemsInFile, FileTree.readJson, read]
      rfl
    rw [inFile]
    exact ⟨_, rfl⟩

theorem filter_names (missions : List (String × List Item)) (id : String) :
    (missions.map fun mission => mission.1 ++ ".json").filter (· != id ++ ".json") =
      (missions.filter (·.1 != id)).map fun mission => mission.1 ++ ".json" := by
  rw [List.filter_map]
  congr 1
  apply List.filter_congr
  intro mission _
  rw [Bool.eq_iff_iff]
  simp only [Function.comp_apply, bne_iff_ne]
  exact not_congr ⟨file_injective, congrArg (· ++ ".json")⟩

theorem file_apart {id other : String} (h : other ≠ id) (place : List String) :
    place ++ [other ++ ".json"] ≠ place ++ [id ++ ".json"] := by
  intro same
  exact h (file_injective (by simpa using same))

structure Changes (store store' : DirectoryStore) (place : List String) (missions missions' : MemoryStore) (id : String)
    (held : Option (List Item)) : Prop where
  directory : store'.directory = store.directory
  directories : FileTree.SameDirectories store.files store'.files
  names : store'.files.namesUnder place = missions'.missions.map fun mission => mission.1 ++ ".json"
  here : store'.files.node? (place ++ [id ++ ".json"]) = held.map fun items => .file (written items)
  elsewhere : ∀ other, other ≠ place ++ [id ++ ".json"] → store'.files.node? other = store.files.node? other
  cached : ∀ other, store'.cached? other = if other = id then held else store.cached? other
  found : ∀ other, missions'.find? other = if other = id then held else missions.find? other
  identifiers : ∀ mission ∈ missions'.missions, mission.1 = id ∨ mission ∈ missions.missions

theorem Mirrors.change {store' : DirectoryStore} {missions' : MemoryStore} (h : store.Mirrors place missions)
    (hid : IsIdentifier id) (held : Option (List Item)) (change : Changes store store' place missions missions' id held)
    (back : ∀ items, held = some items → ReadsBack items) : store'.Mirrors place missions' where
  plain := change.directory ▸ h.plain
  stands := change.directory ▸ h.stands.sameDirectories change.directories
  short := by
    intro other hother
    rw [pathOf, change.directory]
    exact h.short other hother
  names := change.names
  identifiers := by
    intro mission hmission
    rcases change.identifiers mission hmission with same | kept
    · exact same ▸ hid
    · exact h.identifiers mission kept
  files := by
    intro other hother
    rw [change.found]
    split
    next same => rw [same, change.here]
    next apart => rw [change.elsewhere _ (file_apart apart place), h.files other hother]
  cache := by
    intro other items hother
    rw [change.cached] at hother
    rw [change.found]
    split
    next same => rwa [if_pos same] at hother
    next apart =>
      rw [if_neg apart] at hother
      exact h.cache other items hother
  readsBack := by
    intro other items hother
    rw [change.found] at hother
    split at hother
    · exact back items hother
    · exact h.readsBack other items hother

theorem insert_mirrors (h : store.Mirrors place missions) (hid : IsIdentifier id) (back : ReadsBack items) :
    (store.insert id items).result = .ok (MemoryStore.handle id items) ∧
      (store.insert id items).store.Mirrors place (missions.insert id items) := by
  rw [insert_of_place (h.place_of_id hid) (h.isFile hid) items]
  refine ⟨rfl, h.change hid (some items) ?_ ?_⟩
  · exact {
      directory := rfl
      directories := FileTree.sameDirectories_put (h.isFile hid) _
      names := by
        change (store.files.put (place ++ [id ++ ".json"]) _).namesUnder place = _
        rw [FileTree.namesUnder_put, h.names, filter_names]
        rfl
      here := FileTree.node?_put_self (by simp) _
      elsewhere := fun other apart => FileTree.node?_put_of_ne apart _
      cached := fun other => cached?_remember store id other items
      found := fun other => MemoryStore.find?_insert missions id other items
      identifiers := by
        intro mission hmission
        rcases List.mem_cons.mp hmission with rfl | hmission
        · exact .inl rfl
        · exact .inr (List.mem_filter.mp hmission).1 }
  · rintro _ ⟨⟩
    exact back

theorem cached?_forget (store : DirectoryStore) (id other : String) :
    (store.forget id).cached? other = if other = id then none else store.cached? other := by
  unfold forget cached?
  split
  next same => exact same ▸ lookup_without store.cache id
  next apart => exact lookup_without_of_ne apart

theorem erase_mirrors (h : store.Mirrors place missions) (hid : IsIdentifier id) :
    (store.erase id).result = .ok (missions.find? id).isSome ∧
      (store.erase id).store.Mirrors place (missions.erase id) := by
  have found : store.files.exists? (store.pathOf id) = .ok (missions.find? id).isSome := by
    rw [FileTree.exists?_of_place (h.place_of_id hid), h.files id hid]
    cases missions.find? id <;> rfl
  unfold erase
  rw [found]
  cases hfind : missions.find? id with
  | none =>
    rw [MemoryStore.erase_of_absent hfind]
    exact ⟨rfl, h⟩
  | some items =>
    have file : store.files.node? (place ++ [id ++ ".json"]) = some (.file (written items)) := by
      rw [h.files id hid, hfind]
      rfl
    have removed := FileTree.remove_of_file (h.place_of_id hid) file
    rw [removed]
    refine ⟨rfl, h.change hid none ?_ nofun⟩
    exact {
      directory := rfl
      directories := FileTree.sameDirectories_drop (h.isFile hid)
      names := by
        change (store.files.drop (place ++ [id ++ ".json"])).namesUnder place = _
        rw [FileTree.namesUnder_drop, h.names, filter_names]
        rfl
      here := FileTree.node?_drop_self (by simp)
      elsewhere := fun other apart => FileTree.node?_drop_of_ne apart
      cached := fun other => cached?_forget store id other
      found := fun other => MemoryStore.find?_erase missions id other
      identifiers := fun mission hmission => .inr (List.mem_filter.mp hmission).1 }

theorem list_of_mirrors (h : store.Mirrors place missions) :
    store.list = (missions.missions.map (·.1)).mergeSort (· ≤ ·) := by
  have named : store.files.namesIn store.directory.toText = missions.missions.map fun mission => mission.1 ++ ".json" := by
    rw [FileTree.namesIn_of_stands h.stands, h.names]
  have all : (missions.missions.map fun mission => mission.1 ++ ".json").filter (·.endsWith ".json") =
      missions.missions.map fun mission => mission.1 ++ ".json" := by
    rw [List.filter_eq_self]
    intro name hname
    obtain ⟨mission, -, rfl⟩ := List.mem_map.mp hname
    exact endsWith_file mission.1
  have stems : (missions.missions.map fun mission => mission.1 ++ ".json").map Path.stem = missions.missions.map (·.1) := by
    rw [List.map_map]
    apply List.map_congr_left
    intro mission hmission
    exact stem_file (h.identifiers mission hmission)
  unfold list
  dsimp only
  rw [named, all, stems]

end DirectoryStore

end Preflight
