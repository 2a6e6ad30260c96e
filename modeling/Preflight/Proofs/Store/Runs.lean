import Preflight.Proofs.Store.Mirror
import Preflight.Value.Equality

namespace Preflight

open Ids

inductive Act where
  | create (id : String) (items : List Item)
  | get (id : String)
  | read (id : String) (index : Int)
  | list
  | erase (id : String)
  | clearCache
  | reopen

/-- What is heard of an act. An item that cannot be read for a reason of the store counts as none. -/
inductive Told where
  | handle (mission : Option Mission)
  | item (item : Option Item)
  | ids (ids : List String)
  | removed (there : Bool)
  | nothing
  | failed (fault : Fault)

namespace Told

def of {α : Type} (tell : α → Told) : Except Fault α → Told
  | .ok a => tell a
  | .error fault => .failed fault

def ofRead : Except Fault Item → Told
  | .error (.storage _) => .item none
  | answer => .of (fun item => .item (some item)) answer

end Told

namespace Act

def IsPlain : Act → Prop
  | create id items => IsIdentifier id ∧ ReadsBack items
  | get id | read id _ | erase id => IsIdentifier id
  | list | clearCache | reopen => True

def isHousekeeping : Act → Bool
  | clearCache | reopen => true
  | _ => false

def perform (text : String) (home : Option String) (store : DirectoryStore) : Act → Told × DirectoryStore
  | create id items =>
    (.of (fun mission => .handle (some mission)) (store.insert id items).result, (store.insert id items).store)
  | get id => (.of .handle (store.get? id).result, (store.get? id).store)
  | read id index => (.ofRead (DirectoryStore.read id index store).1, (DirectoryStore.read id index store).2)
  | list => (.ids store.list, store)
  | erase id => (.of .removed (store.erase id).result, (store.erase id).store)
  | clearCache => (.nothing, store.clearCache)
  | reopen => match DirectoryStore.openAt store.files text home with
    | .ok store => (.nothing, store)
    | .error fault => (.failed fault, store)

def onMap (missions : MemoryStore) : Act → Told × MemoryStore
  | create id items => (.handle (some (MemoryStore.handle id items)), missions.insert id items)
  | get id => (.handle ((missions.find? id).map (MemoryStore.handle id)), missions)
  | read id index =>
    (.item ((missions.find? id).bind fun items => if index < 0 then none else items[index.toNat]?), missions)
  | list => (.ids ((missions.missions.map (·.1)).mergeSort (· ≤ ·)), missions)
  | erase id => (.removed (missions.find? id).isSome, missions.erase id)
  | clearCache | reopen => (.nothing, missions)

end Act

namespace DirectoryStore

def answers (text : String) (home : Option String) (store : DirectoryStore) : List Act → List Told
  | [] => []
  | act :: rest => (act.perform text home store).1 :: answers text home (act.perform text home store).2 rest

end DirectoryStore

def MemoryStore.answers (missions : MemoryStore) : List Act → List Told
  | [] => []
  | act :: rest => (act.onMap missions).1 :: answers (act.onMap missions).2 rest

namespace DirectoryStore

variable {text : String} {home : Option String} {store : DirectoryStore} {place : List String} {missions : MemoryStore}

theorem directory_load (store : DirectoryStore) (id : String) : (store.load id).2.directory = store.directory := by
  cases store.loads id with
  | cached items _ loaded => rw [loaded]
  | found items _ _ loaded =>
    rw [loaded]
    rfl
  | failed fault _ _ loaded => rw [loaded]

theorem store_get? (store : DirectoryStore) (id : String) : (store.get? id).store = (store.load id).2 := by
  unfold get?
  split
  all_goals
    next loaded => rw [loaded]

theorem directory_get? (store : DirectoryStore) (id : String) : (store.get? id).store.directory = store.directory := by
  rw [store_get?]
  exact directory_load store id

theorem directory_insert (store : DirectoryStore) (id : String) (items : List Item) :
    (store.insert id items).store.directory = store.directory := by
  unfold insert
  split <;> rfl

theorem directory_erase (store : DirectoryStore) (id : String) : (store.erase id).store.directory = store.directory := by
  unfold erase
  split
  · rfl
  · rfl
  · split <;> rfl

theorem ofRead_itemAt (id : String) (index : Int) (items : List Item) :
    Told.ofRead (itemAt id index items) = .item (if index < 0 then none else items[index.toNat]?) := by
  unfold itemAt
  split
  next item found =>
    rw [found]
    rfl
  next found =>
    rw [found]
    rfl

theorem get?_mirrors {id : String} (h : store.Mirrors place missions) (hid : IsIdentifier id) :
    (store.get? id).result = .ok ((missions.find? id).map (MemoryStore.handle id)) ∧
      (store.get? id).store.Mirrors place missions := by
  unfold get?
  cases hfind : missions.find? id with
  | some items =>
    obtain ⟨store', loaded, after⟩ := load_of_mirrors h hid hfind
    rw [loaded]
    exact ⟨rfl, after⟩
  | none =>
    obtain ⟨reason, loaded⟩ := load_of_absent h hid hfind
    rw [loaded]
    exact ⟨rfl, h⟩

theorem read_mirrors {id : String} (h : store.Mirrors place missions) (hid : IsIdentifier id) (index : Int) :
    Told.ofRead (read id index store).1 =
        .item ((missions.find? id).bind fun items => if index < 0 then none else items[index.toNat]?) ∧
      (read id index store).2.Mirrors place missions := by
  unfold read
  cases hfind : missions.find? id with
  | some items =>
    obtain ⟨store', loaded, after⟩ := load_of_mirrors h hid hfind
    rw [loaded]
    exact ⟨ofRead_itemAt id index items, after⟩
  | none =>
    obtain ⟨reason, loaded⟩ := load_of_absent h hid hfind
    rw [loaded]
    exact ⟨rfl, h⟩

theorem perform_mirrors (h : store.Mirrors place missions) (hdirectory : directoryOf text home = .ok store.directory)
    {act : Act} (plain : act.IsPlain) :
    (act.perform text home store).1 = (act.onMap missions).1 ∧
      (act.perform text home store).2.Mirrors place (act.onMap missions).2 ∧
      (act.perform text home store).2.directory = store.directory := by
  cases act with
  | create id items =>
    obtain ⟨hid, back⟩ := plain
    obtain ⟨result, after⟩ := insert_mirrors h hid back
    refine ⟨?_, after, directory_insert store id items⟩
    change Told.of _ (store.insert id items).result = _
    rw [result]
    rfl
  | get id =>
    obtain ⟨answer, after⟩ := get?_mirrors h plain
    refine ⟨?_, after, directory_get? store id⟩
    change Told.of _ (store.get? id).result = _
    rw [answer]
    rfl
  | read id index =>
    obtain ⟨answer, after⟩ := read_mirrors h plain index
    exact ⟨answer, after, directory_load store id⟩
  | list => exact ⟨congrArg Told.ids (list_of_mirrors h), h, rfl⟩
  | erase id =>
    obtain ⟨result, after⟩ := erase_mirrors h plain
    refine ⟨?_, after, directory_erase store id⟩
    change Told.of _ (store.erase id).result = _
    rw [result]
    rfl
  | clearCache => exact ⟨rfl, h.withCache nofun, rfl⟩
  | reopen =>
    have again := openAt_again h.stands hdirectory
    have done : Act.reopen.perform text home store = (.nothing, { store with cache := [] }) := by
      unfold Act.perform
      rw [again]
    rw [done]
    exact ⟨rfl, h.withCache nofun, rfl⟩

theorem answers_of_mirrors (h : store.Mirrors place missions) (hdirectory : directoryOf text home = .ok store.directory)
    {acts : List Act} (plain : ∀ act ∈ acts, act.IsPlain) : store.answers text home acts = missions.answers acts := by
  induction acts generalizing store missions with
  | nil => rfl
  | cons act rest ih =>
    rw [List.forall_mem_cons] at plain
    obtain ⟨answer, after, directory⟩ := perform_mirrors h hdirectory plain.1
    rw [answers, MemoryStore.answers, answer, ih after (directory ▸ hdirectory) plain.2]

structure OpensEmpty (files : FileTree) (text : String) (home : Option String) (store : DirectoryStore) : Prop where
  opened : openAt files text home = .ok store
  empty : store.files.namesIn store.directory.toText = []
  short : ∀ id, IsIdentifier id → (store.pathOf id).utf8ByteSize ≤ FileTree.longestPath

theorem mirrors_of_opensEmpty {files : FileTree} (h : OpensEmpty files text home store) :
    ∃ place, store.Mirrors place {} := by
  have plain := isPlain_of_directoryOf (directory_openAt h.opened)
  obtain ⟨directory, -, opened⟩ := Fault.bind_ok h.opened
  obtain ⟨made, hmade, opened⟩ := Fault.bind_ok opened
  obtain rfl := Except.ok.inj opened
  obtain ⟨place, stands⟩ := FileTree.stands_of_makeDirectories hmade
  have names : made.namesUnder place = [] := by
    rw [← FileTree.namesIn_of_stands stands]
    exact h.empty
  refine ⟨place, ?_⟩
  exact {
    plain
    stands
    short := h.short
    names
    identifiers := nofun
    files := fun id _ => FileTree.node?_eq_none.mpr (by simp [names])
    cache := nofun
    readsBack := nofun }

end DirectoryStore

namespace MemoryStore

variable {missions : MemoryStore}

def after (missions : MemoryStore) (acts : List Act) : MemoryStore :=
  acts.foldl (fun missions act => (act.onMap missions).2) missions

theorem length_answers (missions : MemoryStore) (acts : List Act) : (missions.answers acts).length = acts.length := by
  induction acts generalizing missions with
  | nil => rfl
  | cons act rest ih => rw [answers, List.length_cons, List.length_cons, ih]

theorem answers_append (missions : MemoryStore) (before rest : List Act) :
    missions.answers (before ++ rest) = missions.answers before ++ (missions.after before).answers rest := by
  induction before generalizing missions with
  | nil => rfl
  | cons act before ih =>
    rw [List.cons_append, answers, answers, ih, List.cons_append]
    rfl

theorem onMap_housekeeping {act : Act} (h : act.isHousekeeping = true) : act.onMap missions = (.nothing, missions) := by
  cases act with
  | clearCache => rfl
  | reopen => rfl
  | _ => cases h

theorem answers_insert {act : Act} (h : act.isHousekeeping = true) (before rest : List Act) :
    missions.answers (before ++ act :: rest) =
      (missions.answers (before ++ rest)).take before.length ++
        .nothing :: (missions.answers (before ++ rest)).drop before.length := by
  rw [answers_append, answers_append, answers, onMap_housekeeping h, ← length_answers missions before,
    List.take_left, List.drop_left]

end MemoryStore

/-- A store that started out empty answers as a plain map does, and housekeeping changes no other answer. -/
theorem answers_eq_map {files : FileTree} {text : String} {home : Option String} {store : DirectoryStore}
    (opens : DirectoryStore.OpensEmpty files text home store) :
    (∀ acts : List Act, (∀ act ∈ acts, act.IsPlain) →
      store.answers text home acts = MemoryStore.answers {} acts) ∧
    ∀ (before rest : List Act) (act : Act), act.isHousekeeping = true → (∀ a ∈ before ++ rest, a.IsPlain) →
      store.answers text home (before ++ act :: rest) =
        (store.answers text home (before ++ rest)).take before.length ++
          .nothing :: (store.answers text home (before ++ rest)).drop before.length := by
  obtain ⟨place, mirrors⟩ := DirectoryStore.mirrors_of_opensEmpty opens
  have same {acts : List Act} (plain : ∀ act ∈ acts, act.IsPlain) :
      store.answers text home acts = MemoryStore.answers {} acts :=
    DirectoryStore.answers_of_mirrors mirrors (DirectoryStore.directory_openAt opens.opened) plain
  refine ⟨fun acts plain => same plain, ?_⟩
  intro before rest act housekeeping plain
  have plain' : ∀ a ∈ before ++ act :: rest, a.IsPlain := by
    intro a ha
    rcases List.mem_append.mp ha with ha | ha
    · exact plain a (List.mem_append_left rest ha)
    · rcases List.mem_cons.mp ha with rfl | ha
      · cases a with
        | clearCache => trivial
        | reopen => trivial
        | _ => cases housekeeping
      · exact plain a (List.mem_append_right before ha)
  rw [same plain', same plain]
  exact MemoryStore.answers_insert housekeeping before rest

theorem answers_eq_map_reopened :
    let id := Ids.ofNumber 1
    let store : DirectoryStore :=
      { directory := ⟨"", ["missions"]⟩, files := { nodes := [(["missions"], .directory)] } }
    let takeoff : Item := { code := Command.takeoff.code, lat := 47.39, lon := 8.54, altitude := 50.0 }
    let waypoint : Item := { code := Command.waypoint.code, lat := 47.4, lon := 8.55, altitude := 60.0 }
    let acts : List Act := [.create id [takeoff, waypoint], .read id 0, .reopen, .get id, .read id 1, .clearCache,
      .read id 2, .list, .erase id, .get id]
    DirectoryStore.OpensEmpty {} "missions" none store ∧ (∀ act ∈ acts, act.IsPlain) ∧
      store.answers "missions" none acts = [.handle (some ⟨2, id⟩), .item (some takeoff), .nothing,
        .handle (some ⟨2, id⟩), .item (some waypoint), .nothing, .item none, .ids [id], .removed true, .handle none] := by
  intro id store takeoff waypoint acts
  have hid : IsIdentifier id := by decide
  have back : ReadsBack [takeoff, waypoint] := by
    apply readsBack_of_parse
    simp only [takeoff, waypoint, Json.pretty, Item.listToValue, Item.toValue, Json.render, Json.renderItems,
      Json.renderMembers, Json.string, List.map_cons, List.map_nil, String.toList_append, String.toList_ofList]
    decide +kernel
  have opens : DirectoryStore.OpensEmpty {} "missions" none store := by
    have missions : FileTree.IsFileName "missions" := by decide
    have stands : store.files.Stands store.directory.toText ["missions"] := ⟨FileTree.place_name missions rfl, rfl⟩
    refine ⟨DirectoryStore.openAt_name missions (by decide) rfl rfl, ?_, ?_⟩
    · rw [FileTree.namesIn_of_stands stands]
      rfl
    intro other hother
    exact FileTree.size_child_name missions (isFileName_file hother)
  have plain : ∀ act ∈ acts, act.IsPlain := by
    intro act hact
    simp only [acts, List.mem_cons, List.not_mem_nil, or_false] at hact
    rcases hact with rfl | rfl | rfl | rfl | rfl | rfl | rfl | rfl | rfl | rfl
    all_goals first | exact ⟨hid, back⟩ | exact hid | trivial
  refine ⟨opens, plain, ?_⟩
  rw [(answers_eq_map opens).1 acts plain]
  simp [acts, MemoryStore.answers, Act.onMap, MemoryStore.insert, MemoryStore.erase, MemoryStore.find?, MemoryStore.handle]

end Preflight
