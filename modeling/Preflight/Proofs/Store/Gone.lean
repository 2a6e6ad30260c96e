import Preflight.Proofs.Store.Snapshots

namespace Preflight

open Ids

namespace DirectoryStore

variable {store : DirectoryStore} {id other : String} {items : List Item} {there : Bool}

structure IsGone (store : DirectoryStore) (id : String) : Prop where
  handle : (store.get? id).result = .ok none
  items : ∀ index, ∃ reason, (read id index store).1 = .error (.storage reason)

theorem isGone_of_load {reason : String} (h : (store.load id).1 = .error (.storage reason)) : store.IsGone id where
  handle := by
    rw [result_get?, h, handleOf]
  items := by
    intro index
    rw [read_eq, h]
    exact ⟨reason, rfl⟩

theorem mem_list : other ∈ store.list ↔
    ∃ name ∈ store.files.namesIn store.directory.toText, name.endsWith ".json" = true ∧ Path.stem name = other := by
  simp [list, and_assoc]

theorem mem_list_of_identifier (hid : IsIdentifier id) :
    id ∈ store.list ↔ id ++ ".json" ∈ store.files.namesIn store.directory.toText := by
  rw [mem_list]
  constructor
  · rintro ⟨name, listed, named⟩
    rwa [(stem_eq_iff hid).mp named] at listed
  · intro listed
    exact ⟨id ++ ".json", listed, endsWith_file id, stem_file hid⟩

theorem erase_cases (erased : (store.erase id).result = .ok there) :
    (there = false ∧ (∃ fault, store.files.find (store.pathOf id) = .error fault ∧ fault ≠ .nameTooLong) ∧
      (store.erase id).store = store) ∨
    (there = true ∧ ∃ place octets, store.files.place (store.pathOf id) = .ok place ∧
      store.files.node? place = some (.file octets) ∧
      (store.erase id).store = { store.forget id with files := store.files.drop place }) := by
  unfold erase at erased ⊢
  cases found : store.files.exists? (store.pathOf id) with
  | error fault =>
    rw [found] at erased
    exact nomatch erased
  | ok stands =>
    rw [found] at erased
    cases stands with
    | false => exact .inl ⟨(Except.ok.inj erased).symm, FileTree.exists?_eq_false.mp found, rfl⟩
    | true =>
      cases removed : store.files.remove (store.pathOf id) with
      | error fault =>
        rw [removed] at erased
        exact nomatch erased
      | ok files =>
        rw [removed] at erased
        obtain ⟨place, octets, reached, file, rfl⟩ := FileTree.remove_eq_ok.mp removed
        exact .inr ⟨(Except.ok.inj erased).symm, place, octets, reached, file, rfl⟩

section

variable (plain : store.directory.IsPlain) (octet : '\x00' ∉ store.directory.toText.toList) (hid : IsIdentifier id)

include plain octet hid

theorem isGone_of_unfound {fault : FileFault} (unfound : store.files.find (store.pathOf id) = .error fault)
    (uncached : store.cached? id = none) : store.IsGone id := by
  have named := isFileName_file hid
  have usable : fault ≠ .unusable := by
    rintro rfl
    exact FileTree.find_ne_unusable (FileTree.not_mem_child plain octet named.toIsName named.octet) unfound
  have inFile : store.itemsInFile id = .error (.file fault (store.pathOf id)) := by
    unfold itemsInFile FileTree.readJson
    rw [FileTree.read_of_unfound unfound]
    rfl
  have unread : isUnreadable (.file fault (store.pathOf id)) = true := by
    cases fault with
    | unusable => exact absurd rfl usable
    | _ => rfl
  have loaded : (store.load id).1 = .error (unreadable id (.file fault (store.pathOf id))) := by
    unfold load
    rw [uncached, inFile]
  rw [unreadable, if_pos unread] at loaded
  exact isGone_of_load loaded

theorem not_mem_list_of_unfound {fault : FileFault} (unfound : store.files.find (store.pathOf id) = .error fault)
    (short : fault ≠ .nameTooLong) : id ∉ store.list := by
  rw [mem_list_of_identifier hid, FileTree.mem_namesIn]
  rintro ⟨place, stands, listed⟩
  have named := isFileName_file hid
  by_cases fits : (store.pathOf id).utf8ByteSize ≤ FileTree.longestPath
  · have reached := FileTree.place_child plain stands.1 stands.2 named fits
    obtain ⟨node, held⟩ := Option.ne_none_iff_exists'.mp (mt FileTree.node?_eq_none.mp (not_not.mpr listed))
    change store.files.place (store.pathOf id) = _ at reached
    rw [FileTree.find_of_place reached, held] at unfound
    exact nomatch unfound
  · have octet' := FileTree.not_mem_child plain octet named.toIsName named.octet
    have long : store.files.place (store.pathOf id) = .error .nameTooLong :=
      FileTree.place_of_long octet' (Nat.not_le.mp fits)
    rw [FileTree.find, long] at unfound
    exact short (Except.error.inj unfound).symm

end

section

variable {place : List String} {octets : List UInt8} (plain : store.directory.IsPlain)
  (reached : store.files.place (store.pathOf id) = .ok place)
  (file : store.files.node? place = some (.file octets))

def without (store : DirectoryStore) (id : String) (place : List String) : DirectoryStore :=
  { store.forget id with files := store.files.drop place }

include reached file

theorem find_without : (store.without id place).files.find ((store.without id place).pathOf id) = .error .missing := by
  have other : store.files.node? place ≠ some .directory := by simp [file]
  have below : place ≠ [] := by
    rintro rfl
    exact other rfl
  have reached' : (store.files.drop place).place (store.pathOf id) = .ok place :=
    FileTree.place_of_sameDirectories (FileTree.sameDirectories_drop other) reached
  change (store.files.drop place).find (store.pathOf id) = _
  rw [FileTree.find_of_place reached', FileTree.node?_drop_self below]

include plain

theorem mem_list_without (hid : IsIdentifier id) (apart : other ≠ id) :
    other ∈ (store.without id place).list ↔ other ∈ store.list := by
  obtain ⟨above, rfl, -, -⟩ := FileTree.place_of_child plain (isFileName_file hid) reached
  rw [mem_list, mem_list]
  apply exists_congr
  intro name
  apply and_congr_left
  rintro ⟨-, stemmed⟩
  change name ∈ (store.files.drop (above ++ [id ++ ".json"])).namesIn store.directory.toText ↔ _
  rw [FileTree.mem_namesIn_drop file, FileTree.mem_namesIn]
  constructor
  · rintro ⟨place, stands, listed, -⟩
    exact ⟨place, stands, listed⟩
  · rintro ⟨place, stands, listed⟩
    refine ⟨place, stands, listed, ?_⟩
    intro same
    obtain ⟨-, named⟩ := List.append_inj' same rfl
    rw [(List.cons.inj named).1, stem_file hid] at stemmed
    exact apart stemmed.symm

theorem load_without (hid : IsIdentifier id) (hother : IsIdentifier other) (apart : other ≠ id) :
    ((store.without id place).load other).1 = (store.load other).1 := by
  have isFile : store.files.node? place ≠ some .directory := by simp [file]
  have same := FileTree.sameDirectories_drop isFile
  obtain ⟨above, rfl, -, -⟩ := FileTree.place_of_child plain (isFileName_file hid) reached
  have size : (other ++ ".json").utf8ByteSize ≤ (id ++ ".json").utf8ByteSize := by
    rw [utf8ByteSize_file hother, utf8ByteSize_file hid]
  have beside : store.files.place (store.pathOf other) = .ok (above ++ [other ++ ".json"]) :=
    FileTree.place_beside plain (isFileName_file hid) (isFileName_file hother) size reached
  have beside' := FileTree.place_of_sameDirectories same beside
  have found : (store.files.drop (above ++ [id ++ ".json"])).find (store.pathOf other) =
      store.files.find (store.pathOf other) := by
    rw [FileTree.find_of_place beside, FileTree.find_of_place beside',
      FileTree.node?_drop_of_ne (file_apart apart above)]
  apply load_congr
  · change (store.forget id).cached? other = _
    rw [cached?_forget, if_neg apart]
  · change (store.files.drop (above ++ [id ++ ".json"])).read (store.pathOf other) = _
    rw [FileTree.read, found]
    rfl

end

theorem usable_of_openAt {files : FileTree} {text : String} {home : Option String}
    (opened : openAt files text home = .ok store) :
    store.directory.IsPlain ∧ '\x00' ∉ store.directory.toText.toList := by
  have plain := isPlain_of_directoryOf (directory_openAt opened)
  obtain ⟨place, there, -⟩ := FileTree.isDirectory_iff.mp (isOpen_of_openAt opened).stands
  exact ⟨plain, ((FileTree.place_eq_ok plain).mp there).1⟩

end DirectoryStore

open DirectoryStore in
/-- A removed mission is gone, unless its file was gone before and the cache still holds it. -/
theorem erased_gone {files : FileTree} {text : String} {home : Option String} {opened : DirectoryStore}
    (opens : openAt files text home = .ok opened) (events : List Event) {id : String} (hid : IsIdentifier id)
    {there : Bool} (erased : ((opened.after text home events).erase id).result = .ok there) :
    let store := opened.after text home events
    let store' := (store.erase id).store
    id ∉ store'.list ∧ (∀ other, other ≠ id → (other ∈ store'.list ↔ other ∈ store.list)) ∧
      (∀ other, IsIdentifier other → other ≠ id →
        ((store'.get? other).result = (store.get? other).result ∧
          (store'.get? other).notes = (store.get? other).notes) ∧
          ∀ index, (read other index store').1 = (read other index store).1) ∧
      (store'.IsGone id ↔ ¬ (there = false ∧ (store.cached? id).isSome = true)) ∧
      ∀ items, there = false → store.cached? id = some items → store'.Serves id items := by
  intro store store'
  have named : store.directory = opened.directory := directory_after (directory_openAt opens) events
  obtain ⟨plain, octet⟩ := usable_of_openAt opens
  rw [← named] at plain octet
  rcases erase_cases erased with ⟨rfl, ⟨fault, unfound, short⟩, same⟩ | ⟨rfl, place, octets, reached, file, same⟩
  · have same : store' = store := same
    rw [same]
    refine ⟨not_mem_list_of_unfound plain octet hid unfound short, fun _ _ => Iff.rfl, ?_, ?_, ?_⟩
    · exact fun _ _ _ => ⟨⟨rfl, rfl⟩, fun _ => rfl⟩
    · cases held : store.cached? id with
      | none => exact iff_of_true (isGone_of_unfound plain octet hid unfound held) (by simp)
      | some items =>
        refine iff_of_false ?_ (by simp)
        intro gone
        have handle := (serves_of_cached held).handle
        exact nomatch gone.handle.symm.trans handle
    · intro items _ held
      exact serves_of_cached held
  · have same : store' = store.without id place := same
    have unfound := find_without reached file
    have uncached : (store.without id place).cached? id = none := by
      change (store.forget id).cached? id = none
      rw [cached?_forget, if_pos rfl]
    rw [same]
    refine ⟨?_, fun _ => mem_list_without plain reached file hid, ?_, ?_, ?_⟩
    · exact not_mem_list_of_unfound plain octet hid unfound (by decide)
    · intro other hother apart
      have loads := load_without plain reached file hid hother apart
      refine ⟨get?_of_load loads, fun index => ?_⟩
      rw [read_eq, read_eq, loads]
    · exact iff_of_true (isGone_of_unfound plain octet hid unfound uncached) (by simp)
    · exact fun _ kept => nomatch kept

theorem erased_gone_there :
    let id := Ids.ofNumber 1
    let events : List Event :=
      [.outside { nodes := [(["missions"], .directory), (["missions", id ++ ".json"], .file [])] }]
    let opened : DirectoryStore :=
      { directory := ⟨"", ["missions"]⟩, files := { nodes := [(["missions"], .directory)] } }
    DirectoryStore.openAt {} "missions" none = .ok opened ∧
      ((opened.after "missions" none events).erase id).result = .ok true ∧
      ((opened.after "missions" none events).erase id).store.IsGone id := by
  intro id events opened
  have hid : IsIdentifier id := by decide
  have missions : FileTree.IsFileName "missions" := by decide
  have opens : DirectoryStore.openAt {} "missions" none = .ok opened :=
    DirectoryStore.openAt_name missions (by decide) rfl rfl
  have erased : ((opened.after "missions" none events).erase id).result = .ok true := by
    let store := opened.after "missions" none events
    have there : store.files.place (store.pathOf id) = .ok ["missions", id ++ ".json"] :=
      FileTree.place_name_child missions (isFileName_file hid) rfl rfl
    have file : store.files.node? ["missions", id ++ ".json"] = some (.file []) := by decide +kernel
    change (store.erase id).result = .ok true
    rw [DirectoryStore.erase, FileTree.exists?_of_place there, file, FileTree.remove_of_file there file]
    rfl
  obtain ⟨-, -, -, gone, -⟩ := erased_gone opens events hid erased
  exact ⟨opens, erased, gone.mpr (by simp)⟩

theorem erased_not_gone :
    let id := Ids.ofNumber 1
    let events : List Event := [.own (.create id []), .outside { nodes := [(["missions"], .directory)] }]
    ∃ opened : DirectoryStore, DirectoryStore.openAt {} "missions" none = .ok opened ∧
      ((opened.after "missions" none events).erase id).result = .ok false ∧
      (((opened.after "missions" none events).erase id).store.get? id).result = .ok (some ⟨0, id⟩) ∧
      ¬ ((opened.after "missions" none events).erase id).store.IsGone id := by
  intro id events
  let opened : DirectoryStore :=
    { directory := ⟨"", ["missions"]⟩, files := { nodes := [(["missions"], .directory)] } }
  let store := opened.after "missions" none events
  have hid : IsIdentifier id := by decide
  have missions : FileTree.IsFileName "missions" := by decide
  have opens : DirectoryStore.openAt {} "missions" none = .ok opened :=
    DirectoryStore.openAt_name missions (by decide) rfl rfl
  have there : opened.files.place (opened.pathOf id) = .ok ["missions", id ++ ".json"] :=
    FileTree.place_name_child missions (isFileName_file hid) rfl rfl
  have left : store = { opened.remember id [] with files := opened.files } := by
    change DirectoryStore.befall "missions" none (opened.insert id []).store (.outside opened.files) = _
    rw [DirectoryStore.insert_of_place there (by decide +kernel)]
    rfl
  have unfound : opened.files.node? ["missions", id ++ ".json"] = none := by decide +kernel
  have erased : (store.erase id).result = .ok false ∧ (store.erase id).store = store := by
    have stands : store.files.exists? (store.pathOf id) = .ok false := by
      rw [left]
      change opened.files.exists? (opened.pathOf id) = _
      rw [FileTree.exists?_of_place there, unfound]
      rfl
    rw [DirectoryStore.erase, stands]
    exact ⟨rfl, rfl⟩
  have found : ((store.erase id).store.get? id).result = .ok (some ⟨0, id⟩) := by
    have held : store.cached? id = some [] := by
      rw [left]
      exact (DirectoryStore.cached?_remember opened id id []).trans (if_pos rfl)
    rw [erased.2]
    exact (DirectoryStore.serves_of_cached held).handle
  refine ⟨opened, opens, erased.1, found, ?_⟩
  intro gone
  cases gone.handle.symm.trans found

end Preflight
