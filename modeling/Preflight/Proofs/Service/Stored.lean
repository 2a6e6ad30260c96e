import Preflight.Proofs.Document.Positions
import Preflight.Proofs.Service.Judgement
import Preflight.Proofs.Store.Kept
import Preflight.Value.Equality

/-!
Missions that are stored first and checked later. The body of the later request restates what the document says besides
its items; then the check of the stored mission answers as the check of the document does, whether the items come from
the cache or from the file.
-/
namespace Preflight

inductive Home.SpelledBy : Option Home → Value → Prop
  | unknown {v : Value} (absent : v.isGiven = false) : SpelledBy none v
  | known {entries : Entries} {lat lon altitude : Value} {x y z : Float}
    (given : entries.get? "lat" = some lat ∧ entries.get? "lon" = some lon ∧ entries.get? "alt" = some altitude)
    (numbers : lat.toReal = .ok x ∧ lon.toReal = .ok y ∧ altitude.toReal = .ok z) :
    SpelledBy (some (.ofNumbers x y z)) (.mapping entries)

def settingKeys : List String := ["vehicle", "max_distance_to_first_waypoint", "max_distance_between_waypoints"]

/-- The body of a later request. In the plain form it is the document itself. For a plan it gives the planned home
position as a home position and the plan's geofence as a geofence, with the same keys for the vehicle and the limits. -/
inductive Document.RestatedBy (entries : Entries) (d : Document) : Value → Prop
  | plain (form : ¬ IsPlan entries) : RestatedBy entries d (.mapping entries)
  | plan {data : Entries} (form : IsPlan entries) (home : Home.SpelledBy d.home (data.getD "home" .null))
    (fence : data.getD "geofence" .null = entries.getD "geoFence" .null)
    (settings : ∀ key ∈ settingKeys, data.get? key = entries.get? key) : RestatedBy entries d (.mapping data)

theorem Home.ofValue_of_spelled {home : Home} {v : Value} (h : SpelledBy (some home) v) :
    ofValue v = .ok home ∧ v.isGiven = true := by
  cases h with
  | @known entries lat lon altitude x y z given numbers =>
    have fields : readFields (.mapping entries) = .ok (.ofNumbers x y z) := by
      unfold readFields
      rw [field_mapping given.1, Fault.ok_bind, numbers.1, Fault.ok_bind, field_mapping given.2.1,
        Fault.ok_bind, numbers.2.1, Fault.ok_bind, field_mapping given.2.2, Fault.ok_bind, numbers.2.2]
      rfl
    refine ⟨?_, ?_⟩
    · rw [ofValue, fields]
      rfl
    · cases entries with
      | nil => exact nomatch given.1
      | cons => rfl

theorem Home.underKey_of_spelled {home : Option Home} {entries : Entries} {key : String}
    (h : SpelledBy home (entries.getD key .null)) : underKey (.mapping entries) key = .ok home := by
  unfold underKey
  rw [Value.getD_mapping, Fault.ok_bind]
  cases home with
  | none =>
    obtain ⟨absent⟩ := h
    rw [absent]
    rfl
  | some home =>
    obtain ⟨read, given⟩ := ofValue_of_spelled h
    rw [given, read]
    rfl

namespace Document

variable {entries : Entries} {d : Document} {data : Value}

theorem sections_eq_ok {items : Except Fault (List Item)} {home : Except Fault (Option Home)}
    {fence : Except Fault Geofence} (h : sections items home fence = .ok d) :
    items = .ok d.items ∧ home = .ok d.home ∧ fence = .ok d.fence := by
  obtain ⟨readItems, hitems, h⟩ := Fault.bind_ok h
  obtain ⟨readHome, hhome, h⟩ := Fault.bind_ok h
  obtain ⟨readFence, hfence, h⟩ := Fault.bind_ok h
  obtain rfl := Except.ok.inj h
  exact ⟨hitems, hhome, hfence⟩

theorem ofValue_plain (form : ¬ IsPlan entries) : ofValue (.mapping entries) = ofPlain (.mapping entries) := if_neg form

theorem ofValue_plan (form : IsPlan entries) : ofValue (.mapping entries) = ofPlan (.mapping entries) := if_pos form

theorem RestatedBy.sections (h : d.RestatedBy entries data) (read : ofValue (.mapping entries) = .ok d) :
    Home.underKey data "home" = .ok d.home ∧ fenceUnder data "geofence" = .ok d.fence := by
  cases h with
  | plain form =>
    rw [ofValue_plain form] at read
    obtain ⟨items, -, found⟩ | ⟨-, reason, refused⟩ := ofPlain_cases entries
    · rw [found] at read
      exact (sections_eq_ok read).2
    · rw [refused] at read
      cases read
  | plan form home fence settings =>
    rw [ofValue_plan form] at read
    obtain ⟨mission, -, found⟩ | ⟨-, refused⟩ := ofPlan_cases entries
    · rw [found] at read
      obtain ⟨-, -, found⟩ := sections_eq_ok read
      refine ⟨Home.underKey_of_spelled home, ?_⟩
      unfold fenceUnder at found ⊢
      rw [Value.getD_mapping, fence]
      exact found
    · rw [refused] at read
      cases read

theorem RestatedBy.settings (h : d.RestatedBy entries data) {key : String} (hkey : key ∈ settingKeys) (default : Value) :
    data.getD key default = (Value.mapping entries).getD key default := by
  cases h with
  | plain => rfl
  | plan form home fence settings =>
    rw [Value.getD_mapping, Value.getD_mapping, Entries.getD, Entries.getD, settings key hkey]

theorem readPlannedHome_eq_ok {v : Value} {home : Home} (h : readPlannedHome v = .ok home) :
    ∃ lat lon altitude, home = .ofNumbers lat lon altitude := by
  obtain ⟨values, -, h⟩ := Fault.bind_ok h
  obtain ⟨numbers, -, h⟩ := Fault.bind_ok h
  split at h
  next lat lon altitude => exact ⟨lat, lon, altitude, (Except.ok.inj h).symm⟩
  next => cases h

theorem home_of_plan (form : IsPlan entries) (read : ofValue (.mapping entries) = .ok d) :
    d.home = none ∨ ∃ lat lon altitude, d.home = some (.ofNumbers lat lon altitude) := by
  rw [ofValue_plan form] at read
  obtain ⟨mission, -, found⟩ | ⟨-, refused⟩ := ofPlan_cases entries
  · rw [found] at read
    obtain ⟨-, home, -⟩ := sections_eq_ok read
    unfold plannedHome at home
    obtain ⟨given, -, home⟩ := Fault.bind_ok home
    split at home
    · obtain ⟨planned, hplanned, home⟩ := Fault.bind_ok home
      obtain ⟨lat, lon, altitude, rfl⟩ := readPlannedHome_eq_ok (refusingWith_eq_ok.mp hplanned)
      exact .inr ⟨lat, lon, altitude, (Except.ok.inj home).symm⟩
    · exact .inl (Except.ok.inj home).symm
  · rw [refused] at read
    cases read

def settingsOf (entries : Entries) : Entries := entries.filter fun entry => settingKeys.contains entry.1

theorem get?_settingsOf {key : String} (h : key ∈ settingKeys) : (settingsOf entries).get? key = entries.get? key := by
  have kept : (fun entry : String × Value => decide (settingKeys.contains entry.1 = true ∧ (entry.1 == key) = true)) =
      (·.1 == key) := by
    funext entry
    rw [Bool.eq_iff_iff, decide_eq_true_iff]
    constructor
    · exact And.right
    · intro same
      obtain rfl := beq_iff_eq.mp same
      exact ⟨List.contains_iff_mem.mpr h, same⟩
  rw [Entries.get?, settingsOf, List.find?_filter, kept, Entries.get?]

theorem exists_restatedBy (read : ofValue (.mapping entries) = .ok d) : ∃ data, d.RestatedBy entries data := by
  by_cases form : IsPlan entries
  · have spelled : ∃ v, Home.SpelledBy d.home v := by
      rcases home_of_plan form read with home | ⟨lat, lon, altitude, home⟩
      · exact ⟨.null, home ▸ .unknown rfl⟩
      · rw [home]
        exact ⟨.mapping [("lat", .real lat), ("lon", .real lon), ("alt", .real altitude)],
          .known ⟨rfl, rfl, rfl⟩ ⟨rfl, rfl, rfl⟩⟩
    obtain ⟨home, spelled⟩ := spelled
    let data : Entries := ("home", home) :: ("geofence", entries.getD "geoFence" .null) :: settingsOf entries
    have settings : ∀ key ∈ settingKeys, data.get? key = entries.get? key := by
      intro key hkey
      have apart : ∀ key ∈ settingKeys, "home" ≠ key ∧ "geofence" ≠ key := by decide
      have kept : (settingsOf entries).get? key = entries.get? key := get?_settingsOf hkey
      rw [← kept]
      simp [data, Entries.get?, apart key hkey]
    exact ⟨.mapping data, .plan form spelled rfl settings⟩
  · exact ⟨_, .plain form⟩

end Document

namespace Service

variable {s t : Service} {entries : Entries} {d : Document} {data : Value} {id : String}

theorem readStoredCheck_of_restated (restated : d.RestatedBy entries data)
    (read : Document.ofValue (.mapping entries) = .ok d) :
    s.readStoredCheck data =
      (s.readCheck (.mapping entries)).map fun (_, vehicle, limits) => (vehicle, d.fence, limits) := by
  obtain ⟨home, fence⟩ := restated.sections read
  have vehicle (home : Option Home) : s.vehicle home data = s.vehicle home (.mapping entries) := by
    unfold vehicle
    rw [restated.settings (by simp [settingKeys])]
  have limits : s.limits data = s.limits (.mapping entries) := by
    unfold limits limit
    rw [restated.settings (by simp [settingKeys]), restated.settings (by simp [settingKeys])]
  unfold readStoredCheck readCheck
  rw [home, Fault.ok_bind, vehicle, fence, limits, read, Fault.ok_bind]
  cases s.vehicle d.home (.mapping entries) with
  | error fault => rfl
  | ok vehicle => cases s.limits (.mapping entries) <;> rfl

theorem given_of_restated (restated : d.RestatedBy entries data) :
    (if data.isGiven then data else .mapping []) = data := by
  have mapping {entries : Entries} :
      (if (Value.mapping entries).isGiven then .mapping entries else .mapping []) = Value.mapping entries := by
    cases entries <;> rfl
  cases restated with
  | plain => exact mapping
  | plan => exact mapping

theorem readCheck_congr (same : s.settings = t.settings) (v : Value) : s.readCheck v = t.readCheck v := by
  unfold readCheck vehicle limits limit
  rw [same]

theorem readCheck_eq_ok {v : Value} {found : Document} {vehicle : Vehicle} {limits : Limits}
    (h : s.readCheck v = .ok (found, vehicle, limits)) : Document.ofValue v = .ok found := by
  obtain ⟨d, read, h⟩ := Fault.bind_ok h
  obtain ⟨vehicle, -, h⟩ := Fault.bind_ok h
  obtain ⟨limits, -, h⟩ := Fault.bind_ok h
  cases h
  exact read

theorem given_of_read (read : Document.ofValue (.mapping entries) = .ok d) : (Value.mapping entries).isGiven = true := by
  cases given : (Value.mapping entries).isGiven with
  | true => rfl
  | false =>
    obtain ⟨reason, refused⟩ := Document.refused_of_not_given given
    rw [read] at refused
    cases refused

theorem checkStored_of_kept (kept : s.store.Keeps id d.items) (same : s.settings = t.settings)
    (restated : d.RestatedBy entries data) (read : Document.ofValue (.mapping entries) = .ok d) :
    (s.checkStored id data).1 = (t.checkDocument (.mapping entries)).1 := by
  obtain ⟨found, after⟩ := kept.get?
  let s' : Service := { s with store := (s.store.get? id).store }
  have asked := readStoredCheck_of_restated (s := s') restated read
  rw [readCheck_congr (s := s') (t := t) same] at asked
  unfold checkStored checkDocument
  dsimp only
  rw [found, given_of_read read]
  unfold checkMission
  dsimp only
  rw [given_of_restated restated, asked]
  cases h : t.readCheck (.mapping entries) with
  | error fault => rfl
  | ok asked =>
    obtain ⟨d', vehicle, limits⟩ := asked
    obtain rfl : d' = d := Except.ok.inj ((readCheck_eq_ok h).symm.trans read)
    let c : Checker MemoryStore := { read := MemoryStore.read, vehicle, fence := d'.fence }
    have held : c.Holds (MemoryStore.handle t.ids.next.1 d'.items) d'.items (MemoryStore.insert {} t.ids.next.1 d'.items) :=
      Checker.holds_memory rfl (MemoryStore.find?_insert_self {} _ _)
    have held' : (c.withSource DirectoryStore.read).Holds (MemoryStore.handle id d'.items) d'.items (s.store.get? id).store :=
      DirectoryStore.Keeps.holds rfl after
    exact congrArg told (Checker.verdict_of_holds rfl held held' limits).symm

theorem create_of_read {text : String} {home : Option String} (isOpen : s.store.IsOpen text home)
    (fresh : s.store.files.find (s.store.pathOf s.ids.next.1) = .error .missing)
    (read : Document.ofValue (.mapping entries) = .ok d) (back : ReadsBack d.items) :
    ∃ place store, s.create (.mapping entries) =
        (.ok ⟨201, some (.mapping [("storage_id", .text s.ids.next.1), ("count", .whole d.items.length)])⟩,
          ⟨s.settings, store, s.ids.next.2⟩) ∧
      store.Keeps s.ids.next.1 d.items ∧ store.directory = s.store.directory ∧
      store.files.Stands s.store.directory.toText place := by
  obtain ⟨place, stands⟩ := FileTree.isDirectory_iff.mp isOpen.stands
  have plain := DirectoryStore.isPlain_of_directoryOf isOpen.directory
  have letters := Ids.letters_next s.ids
  obtain ⟨there, absent⟩ := FileTree.place_child_of_missing plain stands.1 stands.2 (Ids.isName_file letters)
    (Ids.not_mem_file letters (by decide) (by decide)) (Ids.file_ne _ (by decide)) fresh
  have file : s.store.files.node? (place ++ [s.ids.next.1 ++ ".json"]) ≠ some .directory := by simp [absent]
  have inserted := DirectoryStore.insert_of_place there file d.items
  have kept := DirectoryStore.keeps_insert there file back
  refine ⟨place, (s.store.insert s.ids.next.1 d.items).store, ?_, kept, ?_, ?_⟩
  · unfold create
    rw [given_of_read read, read]
    dsimp only
    rw [inserted]
    rfl
  · rw [inserted]
    rfl
  · rw [inserted]
    exact stands.sameDirectories (FileTree.sameDirectories_put file _)

theorem plainName_next (ids : Ids) : Target.IsPlainName ids.next.1 where
  given := Ids.ofNumber_ne (ids.taken + 1)
  letters := by
    have among : Ids.letters.all Target.plainLetters.contains = true := by decide
    exact fun c hc => List.contains_iff_mem.mp (List.all_eq_true.mp among c (Ids.letters_next ids c hc))

end Service

/-- A mission is stored under a new id, and from then on the check of the stored mission, with a body that restates the
document, answers exactly as the check of the document does; so does it after the directory has been opened again. -/
theorem checkStored_eq_checkDocument {s : Service} {text : String} {home : Option String}
    (isOpen : s.store.IsOpen text home) (fresh : s.store.files.find (s.store.pathOf s.ids.next.1) = .error .missing)
    {entries : Entries} {d : Document} (read : Document.ofValue (.mapping entries) = .ok d) (back : ReadsBack d.items)
    {create : Request} (created : create.Posts "/api/missions" (.mapping entries)) :
    (∃ data, d.RestatedBy entries data) ∧ ∃ id,
      (s.answer create).1 = .ok ⟨201, some (.mapping [("storage_id", .text id), ("count", .whole d.items.length)])⟩ ∧
      ∀ (once later : Request) (data : Value), once.Posts "/api/missions/check" (.mapping entries) →
        later.Posts ("/api/missions/" ++ id ++ "/check") data → d.RestatedBy entries data →
        ((s.answer create).2.answer later).1 = (s.answer once).1 ∧
        ∃ store, DirectoryStore.openAt (s.answer create).2.store.files text home = .ok store ∧
          ∀ ids, (Service.answer ⟨s.settings, store, ids⟩ later).1 = (s.answer once).1 := by
  obtain ⟨place, store, done, kept, directory, stands⟩ := Service.create_of_read isOpen fresh read back
  refine ⟨Document.exists_restatedBy read, s.ids.next.1, ?_, ?_⟩
  · rw [Service.answer_create created, done]
  · intro once later data honce hlater restated
    have name := Service.plainName_next s.ids
    rw [Service.answer_create created, done, Service.answer_checkStored name hlater, Service.answer_check honce]
    refine ⟨Service.checkStored_of_kept kept rfl restated read, ?_⟩
    rw [← directory] at stands
    have found : DirectoryStore.directoryOf text home = .ok store.directory := by
      rw [directory]
      exact isOpen.directory
    refine ⟨_, DirectoryStore.openAt_again stands found, ?_⟩
    intro ids
    rw [Service.answer_checkStored name hlater]
    exact Service.checkStored_of_kept kept.withoutCache rfl restated read

set_option maxRecDepth 4000 in
theorem checkStored_eq_checkDocument_plan :
    let plan := "\x7b\"fileType\": \"Plan\", \"mission\": \x7b\"items\": [
      \x7b\"command\": 22, \"params\": [0.0, 0.0, 0.0, null, 47.39, 8.54, 50.0]\x7d,
      \x7b\"command\": 16, \"params\": [0.0, 0.0, 0.0, null, 47.394, 8.545, 60.0]\x7d],
      \"plannedHomePosition\": [47.38, 8.53, 488.0]\x7d, \"geoFence\": \x7b\"circles\": [\x7b\"inclusion\": true,
      \"circle\": \x7b\"center\": [47.4, 8.5], \"radius\": 5000.0\x7d\x7d]\x7d, \"vehicle\": \x7b\"type\": \"vtol\"\x7d,
      \"max_distance_to_first_waypoint\": 1500.0\x7d"
    let restated := "\x7b\"home\": \x7b\"lat\": 47.38, \"lon\": 8.53, \"alt\": 488.0\x7d, \"geofence\": \x7b\"circles\": [
      \x7b\"inclusion\": true, \"circle\": \x7b\"center\": [47.4, 8.5], \"radius\": 5000.0\x7d\x7d]\x7d,
      \"vehicle\": \x7b\"type\": \"vtol\"\x7d, \"max_distance_to_first_waypoint\": 1500.0\x7d"
    let simple (code : Int) (lat lon altitude : Float) : Value := .mapping [("command", .whole code),
      ("params", .list [.real 0.0, .real 0.0, .real 0.0, .null, .real lat, .real lon, .real altitude])]
    let item (code : Int) (lat lon altitude : Float) : Item :=
      { code, lat, lon, altitude, params := .ofList [0.0, 0.0, 0.0, 0.0, lat, lon, altitude] }
    let fence : Value := .mapping [("circles", .list [.mapping [("inclusion", .boolean true),
      ("circle", .mapping [("center", .list [.real 47.4, .real 8.5]), ("radius", .real 5000.0)])]])]
    let settings : Entries := [("vehicle", .mapping [("type", .text "vtol")]),
      ("max_distance_to_first_waypoint", .real 1500.0)]
    let mission : Entries := [("items", .list [simple 22 47.39 8.54 50.0, simple 16 47.394 8.545 60.0]),
      ("plannedHomePosition", .list [.real 47.38, .real 8.53, .real 488.0])]
    let entries : Entries := ("fileType", .text "Plan") :: ("mission", .mapping mission) :: ("geoFence", fence) :: settings
    let data : Entries := ("home", .mapping [("lat", .real 47.38), ("lon", .real 8.53), ("alt", .real 488.0)]) ::
      ("geofence", fence) :: settings
    let s : Service :=
      { settings := {}, store := { directory := ⟨"", ["missions"]⟩, files := { nodes := [(["missions"], .directory)] } } }
    let create := Request.posting "/api/missions" plan
    s.store.IsOpen "missions" none ∧ s.store.files.find (s.store.pathOf s.ids.next.1) = .error .missing ∧
      create.Posts "/api/missions" (.mapping entries) ∧
      ∃ d, Document.ofValue (.mapping entries) = .ok d ∧ d.items = [item 22 47.39 8.54 50.0, item 16 47.394 8.545 60.0] ∧
        ReadsBack d.items ∧ d.RestatedBy entries (.mapping data) ∧
      ∃ id, (s.answer create).1 = .ok ⟨201, some (.mapping [("storage_id", .text id), ("count", .whole 2)])⟩ ∧
        let once := Request.posting "/api/missions/check" plan
        let later := Request.posting ("/api/missions/" ++ id ++ "/check") restated
        (∃ document, (s.answer once).1 = .ok ⟨200, some document⟩ ∧
            document.get? "accepted" = .ok (some (.boolean true))) ∧
          ((s.answer create).2.answer later).1 = (s.answer once).1 ∧
          ∃ store, DirectoryStore.openAt (s.answer create).2.store.files "missions" none = .ok store ∧
            ∀ ids, (Service.answer ⟨s.settings, store, ids⟩ later).1 = (s.answer once).1 := by
  intro plan restated simple item fence settings mission entries data s create
  have missions : FileTree.IsFileName "missions" := by decide
  have there : s.store.files.place s.store.directory.toText = .ok ["missions"] := FileTree.place_name missions rfl
  have isOpen : s.store.IsOpen "missions" none :=
    ⟨DirectoryStore.directoryOf_name missions (by decide), FileTree.isDirectory_iff.mpr ⟨_, there, rfl⟩⟩
  have fresh : s.store.files.find (s.store.pathOf s.ids.next.1) = .error .missing := by
    have id : Ids.IsIdentifier s.ids.next.1 := by decide
    have reached : s.store.files.place (s.store.pathOf s.ids.next.1) = .ok ["missions", s.ids.next.1 ++ ".json"] :=
      FileTree.place_name_child missions (Ids.isFileName_file id) rfl rfl
    rw [FileTree.find_of_place reached]
    rfl
  have posted (target : String) : (Request.posting target plan).Posts target (.mapping entries) :=
    Request.posts_posting String.toList_ofList (by decide +kernel)
  have asked (target : String) : (Request.posting target restated).Posts target (.mapping data) :=
    Request.posts_posting String.toList_ofList (by decide +kernel)
  have form : Document.IsPlan entries := rfl
  obtain ⟨d, read, items, home⟩ : ∃ d, Document.ofValue (.mapping entries) = .ok d ∧
      d.items = [item 22 47.39 8.54 50.0, item 16 47.394 8.545 60.0] ∧ d.home = some (.ofNumbers 47.38 8.53 488.0) := by
    have flat : Document.flatten (.list [simple 22 47.39 8.54 50.0, simple 16 47.394 8.545 60.0]) =
        .ok [simple 22 47.39 8.54 50.0, simple 16 47.394 8.545 60.0] := by
      apply Document.flatten_leaves
      intro leaf hleaf
      simp only [List.mem_cons, List.not_mem_nil, or_false] at hleaf
      rcases hleaf with rfl | rfl
      all_goals exact ⟨_, rfl, .inl rfl⟩
    rw [Document.ofValue_plan form, @Document.ofPlan_eq entries mission rfl]
    change ∃ d, Document.sections (Document.flatten (.list _) >>= _) _ _ = _ ∧ _
    rw [flat]
    exact ⟨_, rfl, rfl, rfl⟩
  have back : ReadsBack d.items := by
    rw [items]
    apply readsBack_of_parse
    simp only [item, Json.pretty, Item.listToValue, Item.toValue, Json.render, Json.renderItems, Json.renderMembers,
      Json.string, List.map_cons, List.map_nil, String.toList_append, String.toList_ofList]
    decide +kernel
  have again : d.RestatedBy entries (.mapping data) := by
    refine .plan form ?_ (by decide +kernel) (by decide +kernel)
    rw [home]
    exact .known ⟨rfl, rfl, rfl⟩ ⟨rfl, rfl, rfl⟩
  have count : d.items.length = 2 := by
    rw [items]
    rfl
  have accepted : Response.accepts (s.checkDocument (.mapping entries)).1 = true := by decide +kernel
  have created : create.Posts "/api/missions" (.mapping entries) := posted "/api/missions"
  obtain ⟨-, id, stored, same⟩ := checkStored_eq_checkDocument isOpen fresh read back created
  rw [count] at stored
  refine ⟨isOpen, fresh, created, d, read, items, back, again, id, stored, ?_⟩
  intro once later
  have honce : once.Posts "/api/missions/check" (.mapping entries) := posted _
  have hlater : later.Posts ("/api/missions/" ++ id ++ "/check") (.mapping data) := asked _
  refine ⟨?_, same once later _ honce hlater again⟩
  rw [Service.answer_check honce]
  exact Response.ok_of_accepts accepted

end Preflight
