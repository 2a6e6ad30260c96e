import Preflight.Proofs.Document.Items
import Preflight.Proofs.Json.Overlong
import Preflight.Proofs.Pass.Unread
import Preflight.Proofs.Store.Snapshots

namespace Preflight

open Fault
open DirectoryStore (isUnreadable)

def Fault.isUntold : Fault → Bool
  | undecodable _ | tooManyDigits _ | notIterable _ | realOverflow | wholeOfInfinite | file .unusable _ => true
  | _ => false

theorem Fault.ne_storage_of_isUntold {fault : Fault} (h : fault.isUntold = true) (reason : String) :
    fault ≠ .storage reason := by
  rintro rfl
  exact nomatch h

theorem Fault.isUnreadable_of_isUntold {fault : Fault} (h : fault.isUntold = true) : isUnreadable fault = false := by
  unfold isUntold at h
  split at h
  all_goals first | rfl | cases h

theorem Fault.isUnreadable_of_invalid {fault : Fault} (h : fault.isAmong [.invalid] = true) :
    isUnreadable fault = true := by
  obtain ⟨reason, rfl⟩ := invalid_of_isAmong h
  rfl

theorem Fault.isUntold_of_isOverflow {fault : Fault} (h : fault.isOverflow = true) : fault.isUntold = true := by
  cases fault <;> simp [isOverflow, isUntold] at h ⊢

structure UntoldWhen {α : Type} (x : Except Fault α) (confounded : Prop) : Prop where
  untold : confounded → ∃ fault, x = .error fault ∧ fault.isUntold = true
  told : ¬ confounded → ∀ fault, x = .error fault → isUnreadable fault = true

section

variable {α β : Type} {x : Except Fault α} {f : α → Except Fault β} {P P' : Prop} {Q : α → Prop}

theorem untoldWhen_error {fault : Fault} (untold : P → fault.isUntold = true)
    (told : ¬ P → isUnreadable fault = true) : UntoldWhen (.error fault : Except Fault α) P where
  untold := fun h => ⟨fault, rfl, untold h⟩
  told := by
    rintro h _ ⟨⟩
    exact told h

theorem untoldWhen_ok (a : α) (h : ¬ P) : UntoldWhen (.ok a : Except Fault α) P where
  untold := fun holds => absurd holds h
  told := fun _ => nofun

theorem untoldWhen_bind (hx : UntoldWhen x P) (hf : ∀ a, x = .ok a → UntoldWhen (f a) (Q a)) :
    UntoldWhen (x >>= f) (P ∨ ∃ a, x = .ok a ∧ Q a) := by
  cases x with
  | error fault =>
    refine untoldWhen_error ?_ ?_
    · rintro (confounded | ⟨_, ⟨⟩, -⟩)
      obtain ⟨_, ⟨⟩, untold⟩ := hx.untold confounded
      exact untold
    · exact fun h => hx.told (fun confounded => h (.inl confounded)) fault rfl
  | ok a =>
    have never : ¬ P := fun confounded => nomatch hx.untold confounded
    constructor
    · rintro (confounded | ⟨_, ⟨⟩, confounded⟩)
      · exact absurd confounded never
      · exact (hf a rfl).untold confounded
    · exact fun h => (hf a rfl).told fun confounded => h (.inr ⟨a, rfl, confounded⟩)

theorem UntoldWhen.congr (h : UntoldWhen x P) (same : P' ↔ P) : UntoldWhen x P' := (propext same) ▸ h

end

namespace MissionFile

inductive ListConfounds (given : Value) : Prop
  | kind (none : given.elements? = none)
  | number (values : List Value) (listed : given.elements? = some values)
    (first : Foremost Item.IsRead Item.EntryConfounds values)

/-- Octets that are no text, a whole number with too many digits before anything else is amiss, items that are no list,
and a number of an item that cannot be converted, with every item before it read. -/
inductive Confounds (octets : List UInt8) : Prop
  | text (fault : Fault) (undecodable : Utf8.text octets = .error fault)
  | digits (cs : List Char) (decoded : Utf8.text octets = .ok cs) (digits : Nat)
    (long : Json.parse cs = .error (.tooManyDigits digits))
  | items (cs : List Char) (decoded : Utf8.text octets = .ok cs) (entries : Entries)
    (parsed : Json.parse cs = .ok (.mapping entries)) (confounds : ListConfounds (entries.getD "items" (.list [])))

theorem untoldWhen_text (octets : List UInt8) :
    UntoldWhen (Utf8.text octets) (∃ fault, Utf8.text octets = .error fault) := by
  unfold Utf8.text
  split
  · exact untoldWhen_ok _ nofun
  · exact untoldWhen_error (fun _ => rfl) fun h => absurd ⟨_, rfl⟩ h

theorem untoldWhen_parse (cs : List Char) :
    UntoldWhen (Json.parse cs) (∃ digits, Json.parse cs = .error (.tooManyDigits digits)) := by
  unfold Json.parse
  cases Json.readDocument cs with
  | ok v => exact untoldWhen_ok v nofun
  | error flaw =>
    cases flaw with
    | expected reason offset => exact untoldWhen_error nofun fun _ => rfl
    | tooManyDigits digits => exact untoldWhen_error (fun _ => rfl) fun h => absurd ⟨digits, rfl⟩ h

theorem untoldWhen_getD (v : Value) (key : String) (default : Value) :
    UntoldWhen (v.getD key default) False := by
  cases v with
  | mapping entries => exact untoldWhen_ok _ nofun
  | _ => exact untoldWhen_error nofun fun _ => rfl

theorem entryFails_iff {v : Value} (short : v.holdsLong = false) : Item.EntryFails v ↔ Item.EntryConfounds v := by
  constructor
  · rintro ⟨entries, rfl, confounds | wordless⟩
    · exact ⟨entries, rfl, confounds⟩
    · cases short.symm.trans (Item.holdsLong_of_wordless wordless)
  · rintro ⟨entries, rfl, confounds⟩
    exact ⟨entries, rfl, .inl confounds⟩

theorem untoldWhen_list {values : List Value} (short : (Value.list values).holdsLong = false) :
    UntoldWhen (Item.listOfValue (.list values)) (Foremost Item.IsRead Item.EntryConfounds values) := by
  have confined : Confined _ [.invalid] (Item.listOfValue (.list values)) :=
    Item.confined_listOfValue Value.confined_toReal Value.confined_toWhole fun long => nomatch short.symm.trans long
  have fails : EndsIn isUnrefused (Item.listOfValue (.list values)) ↔
      Foremost Item.IsRead Item.EntryConfounds values := by
    rw [Item.unrefused_listOfValue]
    exact foremost_congr_of_mem fun v hv => entryFails_iff (Value.short_of (Value.holdsLong_of_mem hv) short)
  constructor
  · intro first
    obtain ⟨fault, ended, unrefused⟩ := fails.mpr first
    refine ⟨fault, ended, ?_⟩
    rcases confined fault ended with invalid | overflow
    · obtain ⟨reason, rfl⟩ := invalid_of_isAmong invalid
      exact nomatch unrefused
    · exact isUntold_of_isOverflow overflow
  · intro sound fault ended
    rcases confined fault ended with invalid | overflow
    · exact isUnreadable_of_invalid invalid
    · exact absurd (fails.mp ⟨fault, ended, isUnrefused_of_isStray (isStray_of_isOverflow overflow)⟩) sound

theorem untoldWhen_listOfValue {given : Value} (short : given.holdsLong = false) :
    UntoldWhen (Item.listOfValue given) (ListConfounds given) := by
  have elements : Item.listOfValue given = given.elements >>= fun values => Item.listOfValue (.list values) := rfl
  rw [elements, Value.elements]
  cases listed : given.elements? with
  | none => exact untoldWhen_error (fun _ => rfl) fun h => absurd (.kind listed) h
  | some values =>
    refine (untoldWhen_list (Value.short_of (Value.holdsLong_of_elements? listed) short)).congr ⟨?_, .number values listed⟩
    rintro (none | ⟨values', listed', first⟩)
    · cases listed.symm.trans none
    · obtain rfl := Option.some.inj (listed.symm.trans listed')
      exact first

def items (octets : List UInt8) : Except Fault (List Item) := do
  let v ← Json.parse (← Utf8.text octets)
  Item.listOfValue (← v.getD "items" (.list []))

theorem untoldWhen_items (octets : List UInt8) : UntoldWhen (items octets) (Confounds octets) := by
  have given {cs : List Char} {v : Value} (parsed : Json.parse cs = .ok v) (items : Value)
      (got : v.getD "items" (.list []) = .ok items) : UntoldWhen (Item.listOfValue items) (ListConfounds items) := by
    cases v with
    | mapping entries =>
      obtain rfl := Except.ok.inj got
      exact untoldWhen_listOfValue (Value.short_of (Value.holdsLong_of_getD rfl) (Json.short_of_parse parsed))
    | _ => cases got
  refine (untoldWhen_bind (untoldWhen_text octets) fun cs _ => untoldWhen_bind (untoldWhen_parse cs) fun v parsed =>
    untoldWhen_bind (untoldWhen_getD v "items" (.list [])) (given parsed)).congr ?_
  constructor
  · rintro (⟨fault, undecodable⟩ | ⟨cs, decoded, digits, long⟩ | ⟨cs, decoded, entries, parsed, confounds⟩)
    · exact .inl ⟨fault, undecodable⟩
    · exact .inr ⟨cs, decoded, .inl ⟨digits, long⟩⟩
    · exact .inr ⟨cs, decoded, .inr ⟨.mapping entries, parsed, .inr ⟨_, Value.getD_mapping .., confounds⟩⟩⟩
  · rintro (⟨fault, undecodable⟩ | ⟨cs, decoded, ⟨digits, long⟩ | ⟨v, parsed, never | ⟨given, got, confounds⟩⟩⟩)
    · exact .text fault undecodable
    · exact .digits cs decoded digits long
    · exact never.elim
    · cases v with
      | mapping entries =>
        obtain rfl := Except.ok.inj got
        exact .items cs decoded entries parsed confounds
      | _ => exact nomatch got

end MissionFile

namespace FileTree

variable {tree : FileTree} {text : String}

theorem find_of_octet (octet : '\x00' ∈ text.toList) : tree.find text = .error .unusable := by
  have there : tree.place text = .error .unusable := by
    unfold place
    rw [String.contains_char_eq, decide_eq_true octet]
    rfl
  rw [find, there]
  rfl

theorem untoldWhen_read : UntoldWhen (tree.read text) ('\x00' ∈ text.toList) := by
  by_cases octet : '\x00' ∈ text.toList
  · have unusable : tree.read text = .error (.file .unusable text) := by
      rw [read, find_of_octet octet]
      rfl
    rw [unusable]
    exact untoldWhen_error (fun _ => rfl) fun h => absurd octet h
  · have usable : tree.find text ≠ .error .unusable := find_ne_unusable octet
    unfold read
    cases found : tree.find text with
    | error fault =>
      refine untoldWhen_error (fun h => absurd h octet) fun _ => ?_
      cases fault with
      | unusable => exact absurd found usable
      | _ => rfl
    | ok node =>
      cases node with
      | directory => exact untoldWhen_error (fun h => absurd h octet) fun _ => rfl
      | file octets => exact untoldWhen_ok octets octet

end FileTree

namespace DirectoryStore

variable {store : DirectoryStore} {id : String}

inductive Confounded (store : DirectoryStore) (id : String) : Prop
  | path (uncached : store.cached? id = none) (octet : '\x00' ∈ (store.pathOf id).toList)
  | file (uncached : store.cached? id = none) (octets : List UInt8)
    (stored : store.files.read (store.pathOf id) = .ok octets) (confounds : MissionFile.Confounds octets)

theorem itemsInFile_eq (store : DirectoryStore) (id : String) :
    store.itemsInFile id = store.files.read (store.pathOf id) >>= MissionFile.items := by
  unfold itemsInFile FileTree.readJson MissionFile.items
  cases store.files.read (store.pathOf id) with
  | error fault => rfl
  | ok octets =>
    change (Utf8.text octets >>= Json.parse) >>= _ = Utf8.text octets >>= _
    cases Utf8.text octets <;> rfl

theorem untoldWhen_itemsInFile (uncached : store.cached? id = none) :
    UntoldWhen (store.itemsInFile id) (store.Confounded id) := by
  rw [itemsInFile_eq]
  refine (untoldWhen_bind FileTree.untoldWhen_read fun octets _ => MissionFile.untoldWhen_items octets).congr ?_
  constructor
  · rintro (⟨-, octet⟩ | ⟨-, octets, stored, confounds⟩)
    · exact .inl octet
    · exact .inr ⟨octets, stored, confounds⟩
  · rintro (octet | ⟨octets, stored, confounds⟩)
    · exact .path uncached octet
    · exact .file uncached octets stored confounds

theorem load_confounded (h : store.Confounded id) :
    ∃ fault, fault.isUntold = true ∧ store.load id = (.error fault, store) := by
  have uncached : store.cached? id = none := by cases h <;> assumption
  obtain ⟨fault, ended, untold⟩ := (untoldWhen_itemsInFile uncached).untold h
  have same : unreadable id fault = fault := by
    rw [unreadable, isUnreadable_of_isUntold untold]
    rfl
  cases store.loads id with
  | cached items held _ => cases uncached.symm.trans held
  | found items _ inFile _ => cases ended.symm.trans inFile
  | failed other _ inFile loaded =>
    obtain rfl := Except.error.inj (ended.symm.trans inFile)
    rw [same] at loaded
    exact ⟨fault, untold, loaded⟩

theorem load_sound (h : ¬ store.Confounded id) :
    (∃ items, (store.load id).1 = .ok items) ∨ ∃ reason, store.load id = (.error (.storage reason), store) := by
  cases store.loads id with
  | cached items _ loaded => exact .inl ⟨items, by rw [loaded]⟩
  | found items _ _ loaded => exact .inl ⟨items, by rw [loaded]⟩
  | failed fault uncached inFile loaded =>
    have told := (untoldWhen_itemsInFile uncached).told h fault inFile
    rw [unreadable, if_pos told] at loaded
    exact .inr ⟨_, loaded⟩

theorem read_of_error {fault : Fault} (loaded : store.load id = (.error fault, store)) (index : Int) :
    read id index store = (.error fault, store) := by
  rw [read_eq, loaded]
  rfl

structure Copes (store : DirectoryStore) (id : String) : Prop where
  items : ∀ index, (∃ item, (read id index store).1 = .ok item) ∨
    ∃ reason, (read id index store).1 = .error (.storage reason)
  handle : ∃ mission?, (store.get? id).result = .ok mission?
  judged : ∀ (c : Checker DirectoryStore) (limits : Limits) (count : Int), c.read = read →
    limits.AreSettled → 0 < count → (store.get? id).result = .ok none →
      ∃ verdict, (c.check ⟨count, id⟩ limits store).verdict = .ok verdict ∧ verdict.accepted = false ∧
        ∃ d ∈ verdict.diagnostics, d.code = "mission_storage_failure"

structure Passes (store : DirectoryStore) (id : String) (fault : Fault) : Prop where
  items : ∀ index, (read id index store).1 = .error fault
  handle : (store.get? id).result = .error fault
  judged : ∀ (c : Checker DirectoryStore) (limits : Limits) (count : Int), c.read = read →
    limits.AreSettled → 0 < count → (c.check ⟨count, id⟩ limits store).verdict = .error fault

/-- A failure changes nothing, but for a look beyond the last item: before that the items were read. -/
structure FailsClean (store : DirectoryStore) (id : String) : Prop where
  handle : (∀ mission, (store.get? id).result ≠ .ok (some mission)) → (store.get? id).store = store
  items : ∀ index fault, (read id index store).1 = .error fault → (read id index store).2 = store ∨
    ∃ items, store.itemsInFile id = .ok items ∧ (index < 0 ∨ items.length ≤ index) ∧
      (read id index store).2 = store.remember id items

theorem copes_of_sound (h : ¬ store.Confounded id) : store.Copes id := by
  rcases load_sound h with ⟨items, loaded⟩ | ⟨reason, loaded⟩
  · have handle : (store.get? id).result = .ok (some (MemoryStore.handle id items)) := by
      rw [result_get?, loaded, handleOf]
    refine ⟨fun index => ?_, ⟨_, handle⟩, fun _ _ _ _ _ _ none => ?_⟩
    · rw [read_eq, loaded]
      change (∃ item, itemAt id index items = _) ∨ ∃ reason, itemAt id index items = _
      unfold itemAt
      split
      · exact .inl ⟨_, rfl⟩
      · exact .inr ⟨_, rfl⟩
    · cases handle.symm.trans none
  · refine ⟨fun index => .inr ⟨reason, ?_⟩, ⟨none, ?_⟩, ?_⟩
    · rw [read_of_error loaded]
    · rw [result_get?, loaded, handleOf]
    · intro c limits count hread settled pos _
      have failed : (c.read id 0).run store = (.error (.storage reason), store) := by
        rw [hread]
        exact read_of_error loaded 0
      have pos : 0 < (⟨count, id⟩ : Mission).count := pos
      exact Checker.verdict_unread pos failed settled rfl

theorem passes_of_confounded (h : store.Confounded id) : ∃ fault, fault.isUntold = true ∧ store.Passes id fault := by
  obtain ⟨fault, untold, loaded⟩ := load_confounded h
  have other := ne_storage_of_isUntold untold
  refine ⟨fault, untold, fun index => ?_, ?_, ?_⟩
  · rw [read_of_error loaded]
  · rw [result_get?, loaded, handleOf_other other]
  · intro c limits count hread settled pos
    have failed : (c.read id 0).run store = (.error fault, store) := by
      rw [hread]
      exact read_of_error loaded 0
    have pos : 0 < (⟨count, id⟩ : Mission).count := pos
    exact Checker.verdict_broken pos failed settled other

theorem failsClean (store : DirectoryStore) (id : String) : store.FailsClean id := by
  have unchanged (same : (store.load id).2 = store) : store.FailsClean id := by
    refine ⟨fun _ => (store_get? store id).trans same, fun index _ _ => .inl ?_⟩
    rw [read_eq]
    exact same
  cases store.loads id with
  | cached items _ loaded => exact unchanged (by rw [loaded])
  | failed fault _ _ loaded => exact unchanged (by rw [loaded])
  | found items _ inFile loaded =>
    refine ⟨fun none => ?_, fun index fault failed => .inr ⟨items, inFile, ?_, ?_⟩⟩
    · have found : (store.get? id).result = .ok (some (MemoryStore.handle id items)) := by
        rw [result_get?, loaded, handleOf]
      exact absurd found (none _)
    · rw [read_eq, loaded] at failed
      exact beyond_of_itemAt failed
    · rw [read_eq, loaded]

end DirectoryStore

open DirectoryStore in
/-- The store copes with every mission file but those that confound it, and no failure spoils its cache. -/
theorem damaged_told_iff (store : DirectoryStore) (id : String) :
    (store.Copes id ↔ ¬ store.Confounded id) ∧
      (store.Confounded id → ∃ fault, fault.isUntold = true ∧ store.Passes id fault) ∧ store.FailsClean id := by
  refine ⟨⟨?_, copes_of_sound⟩, passes_of_confounded, failsClean store id⟩
  intro copes confounded
  obtain ⟨fault, -, passes⟩ := passes_of_confounded confounded
  obtain ⟨answer, handle⟩ := copes.handle
  cases passes.handle.symm.trans handle

theorem damaged_not_told :
    let store : DirectoryStore :=
      { directory := ⟨"", ["missions"]⟩
        files := { nodes := [(["missions"], .directory), (["missions", "m.json"], .file [0xff])] } }
    let fault : Fault := .undecodable ⟨.invalidStart, 0, 1, 0xff⟩
    (store.get? "m").result = .error fault ∧ (DirectoryStore.read "m" 0 store).1 = .error fault ∧
      ¬ store.Copes "m" := by
  intro store fault
  have missions : FileTree.IsFileName "missions" := by decide
  have name : FileTree.IsFileName "m.json" := by decide
  have there : store.files.place (store.pathOf "m") = .ok ["missions", "m.json"] :=
    FileTree.place_name_child missions name rfl rfl
  have stored : store.files.read (store.pathOf "m") = .ok [0xff] := by
    rw [FileTree.read, FileTree.find_of_place there]
    rfl
  have inFile : store.itemsInFile "m" = .error fault := by
    rw [DirectoryStore.itemsInFile_eq, stored]
    rfl
  have loaded : store.load "m" = (.error fault, store) := by
    have uncached : store.cached? "m" = none := rfl
    unfold DirectoryStore.load
    rw [uncached, inFile]
    rfl
  have handle : (store.get? "m").result = .error fault := by
    rw [DirectoryStore.result_get?, loaded, DirectoryStore.handleOf_other (by simp [fault])]
  refine ⟨handle, by rw [DirectoryStore.read_of_error loaded], fun copes => ?_⟩
  obtain ⟨answer, handled⟩ := copes.handle
  cases handled.symm.trans handle

end Preflight
