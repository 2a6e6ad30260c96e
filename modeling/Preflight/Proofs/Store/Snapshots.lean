import Preflight.Proofs.Store.Histories

/-!
Missions that were loaded. A store that has come to hold the items of a mission goes on serving these items, whatever
else it does and whatever happens to its files, until its cache is cleared; then only the mission's file counts.
-/
namespace Preflight

namespace DirectoryStore

variable {text : String} {home : Option String} {store : DirectoryStore} {id : String} {items : List Item}

structure Serves (store : DirectoryStore) (id : String) (items : List Item) : Prop where
  handle : (store.get? id).result = .ok (some (MemoryStore.handle id items))
  within : ∀ (index : Nat) (h : index < items.length), (read id index store).1 = .ok items[index]
  beyond : ∀ index : Int, index < 0 ∨ items.length ≤ index →
    (read id index store).1 = .error (.storage s!"item index {index} out of range for '{id}'")

theorem load_of_cached (held : store.cached? id = some items) : store.load id = (.ok items, store) := by
  unfold load
  rw [held]

theorem read_of_cached (held : store.cached? id = some items) (index : Int) :
    read id index store = (itemAt id index items, store) := by
  rw [read_eq, load_of_cached held]
  rfl

theorem itemAt_beyond {index : Int} (h : index < 0 ∨ items.length ≤ index) :
    itemAt id index items = .error (.storage s!"item index {index} out of range for '{id}'") := by
  have none : (if index < 0 then none else items[index.toNat]?) = none := by
    by_cases negative : index < 0
    · rw [if_pos negative]
    · rw [if_neg negative, List.getElem?_eq_none]
      omega
  unfold itemAt
  rw [none]

theorem beyond_of_itemAt {index : Int} {fault : Fault}
    (h : itemAt id index items = .error fault) : index < 0 ∨ items.length ≤ index := by
  by_cases negative : index < 0
  · exact .inl negative
  · right
    unfold itemAt at h
    rw [if_neg negative] at h
    cases found : items[index.toNat]? with
    | some item =>
      rw [found] at h
      cases h
    | none =>
      have beyond := List.getElem?_eq_none_iff.mp found
      omega

theorem serves_of_cached (held : store.cached? id = some items) : store.Serves id items where
  handle := by
    rw [result_get?, load_of_cached held, handleOf]
  within := by
    intro index h
    rw [read_of_cached held]
    exact itemAt_eq_ok.mpr (List.getElem?_eq_getElem h)
  beyond := by
    intro index h
    rw [read_of_cached held]
    exact itemAt_beyond h

theorem cached?_of_load (found : (store.load id).1 = .ok items) : (store.load id).2.cached? id = some items := by
  cases store.loads id with
  | cached kept held loaded =>
    rw [loaded] at found ⊢
    obtain rfl := Except.ok.inj found
    exact held
  | found kept _ _ loaded =>
    rw [loaded] at found ⊢
    obtain rfl := Except.ok.inj found
    rw [cached?_remember, if_pos rfl]
  | failed fault _ _ loaded =>
    rw [loaded] at found
    cases found

theorem load_of_get? {mission : Mission} (got : (store.get? id).result = .ok (some mission)) :
    ∃ items, (store.load id).1 = .ok items ∧ mission = MemoryStore.handle id items := by
  rw [result_get?] at got
  unfold handleOf at got
  split at got
  next items loaded => exact ⟨items, loaded, by simpa using got.symm⟩
  next => cases got
  next => cases got

theorem cached?_of_insert {mission : Mission} (created : (store.insert id items).result = .ok mission) :
    mission = MemoryStore.handle id items ∧ (store.insert id items).store.cached? id = some items := by
  unfold insert at created ⊢
  split at created
  · exact nomatch created
  · refine ⟨(Except.ok.inj created).symm, ?_⟩
    change (store.remember id items).cached? id = some items
    rw [cached?_remember, if_pos rfl]

end DirectoryStore

/-- Reads of a directory store amid other events; before each read the next of the given histories comes to pass. -/
def readAmid (text : String) (home : Option String) : Source (DirectoryStore × List (List Event)) :=
  fun id index (store, histories) =>
    let (answer, store) := DirectoryStore.read id index (store.after text home (histories.headD []))
    (answer, store, histories.tail)

def Checker.onMemory {σ : Type} (c : Checker σ) : Checker MemoryStore := { c with read := MemoryStore.read }

namespace DirectoryStore

variable {text : String} {home : Option String} {store : DirectoryStore} {id : String} {items : List Item}

structure Lasts (text : String) (home : Option String) (store : DirectoryStore) (id : String) (items : List Item) :
    Prop where
  serves : ∀ events : List Event, (∀ event ∈ events, event.Spares id) →
    (store.after text home events).Serves id items
  judged : ∀ (c : Checker (DirectoryStore × List (List Event))) (limits : Limits) (histories : List (List Event)),
    c.read = readAmid text home → (∀ events ∈ histories, ∀ event ∈ events, event.Spares id) →
      (c.check (MemoryStore.handle id items) limits (store, histories)).verdict =
        (c.onMemory.check (MemoryStore.handle id items) limits (MemoryStore.insert {} id items)).verdict

theorem holds_amid {c : Checker (DirectoryStore × List (List Event))} (hread : c.read = readAmid text home)
    {histories : List (List Event)} (spares : ∀ events ∈ histories, ∀ event ∈ events, event.Spares id)
    (held : store.cached? id = some items) : c.Holds (MemoryStore.handle id items) items (store, histories) := by
  refine ⟨rfl, fun state => state.1.cached? id = some items ∧ ∀ events ∈ state.2, ∀ event ∈ events, event.Spares id,
    ⟨held, spares⟩, ?_⟩
  rintro index item found ⟨store, histories⟩ ⟨held, spares⟩
  have next : ∀ event ∈ histories.headD [], event.Spares id := by
    cases histories with
    | nil => exact nofun
    | cons events rest => exact spares events (List.mem_cons_self ..)
  have held' : (store.after text home (histories.headD [])).cached? id = some items := cached?_after next held
  have answered : (c.read id (index : Int)).run (store, histories) =
      (.ok item, store.after text home (histories.headD []), histories.tail) := by
    rw [hread]
    change ((DirectoryStore.read id index _).1, (DirectoryStore.read id index _).2, histories.tail) = _
    rw [read_of_cached held']
    exact Prod.ext (itemAt_eq_ok.mpr found) rfl
  have kept : (store.after text home (histories.headD [])).cached? id = some items ∧
      ∀ events ∈ histories.tail, ∀ event ∈ events, event.Spares id :=
    ⟨held', fun events h => spares events (List.mem_of_mem_tail h)⟩
  change ((c.read id (index : Int)).run (store, histories)).1 = _ ∧
    ((c.read id (index : Int)).run (store, histories)).2.1.cached? id = some items ∧
      ∀ events ∈ ((c.read id (index : Int)).run (store, histories)).2.2, ∀ event ∈ events, event.Spares id
  rw [answered]
  exact ⟨rfl, kept⟩

theorem verdict_of_holds {σ : Type} {c : Checker σ} {limits : Limits} {store : σ}
    (held : c.Holds (MemoryStore.handle id items) items store) :
    (c.check (MemoryStore.handle id items) limits store).verdict =
      (c.onMemory.check (MemoryStore.handle id items) limits (MemoryStore.insert {} id items)).verdict := by
  by_cases count : 0 < (MemoryStore.handle id items).count
  · have held' : c.onMemory.Holds (MemoryStore.handle id items) items (MemoryStore.insert {} id items) :=
      Checker.holds_memory rfl (MemoryStore.find?_insert_self {} id items)
    rw [Checker.verdict_onList held count, Checker.verdict_onList held' count]
    rfl
  · rw [Checker.check, Checker.check, if_pos (by omega), if_pos (by omega)]

theorem lasts_of_cached (held : store.cached? id = some items) : Lasts text home store id items where
  serves := fun _ spares => serves_of_cached (cached?_after spares held)
  judged := fun _ _ _ hread spares => verdict_of_holds (holds_amid hread spares held)

end DirectoryStore

open DirectoryStore in
/-- What was loaded once is answered until the cache is cleared; then the answers are those of the file. -/
theorem loaded_lasts (text : String) (home : Option String) (store : DirectoryStore) (id : String) :
    (∀ items mission, (store.insert id items).result = .ok mission →
      mission = MemoryStore.handle id items ∧ Lasts text home (store.insert id items).store id items) ∧
    (∀ mission, (store.get? id).result = .ok (some mission) →
      ∃ items, mission = MemoryStore.handle id items ∧ Lasts text home (store.get? id).store id items) ∧
    (∀ index items, (store.load id).1 = .ok items → Lasts text home (read id index store).2 id items) ∧
    ∀ store' : DirectoryStore, store.files.read (store.pathOf id) = store'.files.read (store'.pathOf id) →
      ((store.clearCache.get? id).result = (store'.clearCache.get? id).result ∧
        (store.clearCache.get? id).notes = (store'.clearCache.get? id).notes) ∧
      ∀ index, (read id index store.clearCache).1 = (read id index store'.clearCache).1 := by
  refine ⟨?_, ?_, ?_, ?_⟩
  · intro items mission created
    obtain ⟨handle, held⟩ := cached?_of_insert created
    exact ⟨handle, lasts_of_cached held⟩
  · intro mission got
    obtain ⟨items, found, handle⟩ := load_of_get? got
    refine ⟨items, handle, lasts_of_cached ?_⟩
    rw [store_get?]
    exact cached?_of_load found
  · intro index items found
    exact lasts_of_cached (cached?_of_load found)
  · intro store' file
    have same : (store.clearCache.load id).1 = (store'.clearCache.load id).1 := load_congr rfl file
    refine ⟨get?_of_load same, fun index => ?_⟩
    rw [read_eq, read_eq, same]

theorem loaded_lasts_removed :
    let store : DirectoryStore :=
      { directory := ⟨"", ["missions"]⟩, files := { nodes := [(["missions"], .directory)] } }
    let items : List Item := [{ code := Command.takeoff.code, altitude := 30.0 }]
    let events : List Event := [.outside {}, .own (.get "n"), .own (.erase "n"), .own (.read "m" 7)]
    (store.insert "m" items).result = .ok (MemoryStore.handle "m" items) ∧
      ((store.insert "m" items).store.after "missions" none events).Serves "m" items := by
  intro store items events
  have created : (store.insert "m" items).result = .ok (MemoryStore.handle "m" items) := by
    have name : FileTree.IsFileName "m.json" := by decide
    have missions : FileTree.IsFileName "missions" := by decide
    have there : store.files.place (store.pathOf "m") = .ok ["missions", "m.json"] :=
      FileTree.place_name_child missions name rfl rfl
    rw [DirectoryStore.insert_of_place there (by decide)]
  obtain ⟨-, lasts⟩ := (loaded_lasts "missions" none store "m").1 items _ created
  have spares : ∀ event ∈ events, event.Spares "m" := by
    simp [events, Event.Spares, Act.Spares]
  exact ⟨created, lasts.serves events spares⟩

end Preflight
