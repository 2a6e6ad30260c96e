import Mathlib.Data.List.Nodup
import Mathlib.Tactic.ByContra
import Preflight.Proofs.Files
import Preflight.Proofs.Files.Directories
import Preflight.Proofs.Settings.Layers
import Preflight.Proofs.Text.Utf8

namespace Preflight

inductive Kind where
  | boolean
  | whole
  | real
  | text
  deriving DecidableEq, Repr

namespace Kind

def read (kind : Kind) (text : String) : Except Fault Value :=
  match kind with
  | .boolean => .ok (.boolean (Settings.affirmations.contains (Text.toLower text)))
  | .whole => .whole <$> (Value.text text).toWhole
  | .real => .real <$> (Value.text text).toReal
  | .text => .ok (.text text)

/-- The values of a file that are of a kind. A real number may be written as a whole one. -/
inductive Fits : Kind → Value → Prop
  | boolean (b : Bool) : Fits .boolean (.boolean b)
  | whole (n : Int) : Fits .whole (.whole n)
  | real (x : Float) : Fits .real (.real x)
  | integer (n : Int) : Fits .real (.whole n)
  | text (s : String) : Fits .text (.text s)

end Kind

structure Declaration where
  key : String
  kind : Kind
  optional : Bool := false
  deriving DecidableEq, Repr

def Declaration.Fits (d : Declaration) (v : Value) : Prop := d.kind.Fits v ∨ d.optional = true ∧ v = .null

def Section.declarations : Section → List Declaration
  | feasibility => [{ key := "max_distance_to_first_waypoint", kind := .real },
      { key := "max_distance_between_waypoints", kind := .real }]
  | vehicle => [{ key := "type", kind := .text }, { key := "landed", kind := .boolean },
      { key := "default_acceptance_radius", kind := .real },
      { key := "landing_angle_deg", kind := .real, optional := true },
      { key := "takeoff_land_required", kind := .whole }, { key := "max_actuator_value", kind := .real }]
  | interface => [{ key := "rest_host", kind := .text }, { key := "rest_port", kind := .whole },
      { key := "log_file", kind := .text, optional := true }, { key := "log_level", kind := .text }]

theorem Section.keys_declarations (part : Section) : part.declarations.map (·.key) = part.defaults.map (·.1) := by
  cases part <;> rfl

theorem Section.eq_of_key {part : Section} {d d' : Declaration} (hd : d ∈ part.declarations)
    (hd' : d' ∈ part.declarations) (same : d.key = d'.key) : d = d' := by
  have once : (part.declarations.map (·.key)).Nodup := by cases part <;> decide
  exact List.inj_on_of_nodup_map once hd hd' same

theorem Section.key_ordinary {part : Section} {d : Declaration} (hd : d ∈ part.declarations) :
    d.key ∉ Settings.sharedNames := by
  revert d
  cases part <;> decide

theorem Fields.get?_ofEntries {entries : Entries} (h : ∀ e ∈ entries, (Yaml.Tree.ofValue e.2).toValue = e.2)
    (key : String) : ((ofEntries entries).get? key).map Yaml.Tree.toValue = entries.get? key := by
  induction entries with
  | nil => rfl
  | cons e rest ih =>
    rw [List.forall_mem_cons] at h
    change (get? ((.text e.1, .ofValue e.2) :: ofEntries rest) key).map _ = _
    rw [get?_cons]
    by_cases same : e.1 = key
    · rw [if_pos (Yaml.Tree.isNamed_text.mpr same), Option.map_some, h.1]
      simp [Entries.get?, same]
    · rw [if_neg (mt Yaml.Tree.isNamed_text.mp same), ih h.2]
      simp [Entries.get?, same]

namespace Settings

open FileEntry (written?)

variable {part : Section} {key : String} {d : Declaration} {v : Value}

theorem find?_initial (part : Section) (key : String) :
    ({} : Settings).find? part key = Entries.get? part.defaults key := by
  have plain : ∀ e ∈ part.defaults, (Yaml.Tree.ofValue e.2).toValue = e.2 := by
    cases part <;> simp [Section.defaults, Yaml.Tree.ofValue, Yaml.Tree.toValue]
  have initial : ({} : Settings).fields part = Fields.ofEntries part.defaults := by cases part <;> rfl
  rw [find?, initial, Fields.get?_ofEntries plain, Option.or_self]

theorem default_fits (hd : d ∈ part.declarations) :
    ∃ v, Entries.get? part.defaults d.key = some v ∧ d.Fits v ∧ (d.kind = .real → ∀ n, v ≠ .whole n) := by
  revert d
  cases part with
  | feasibility =>
    simp only [Section.declarations, List.forall_mem_cons]
    exact ⟨⟨_, rfl, .inl (.real _), by simp⟩, ⟨_, rfl, .inl (.real _), by simp⟩, by simp⟩
  | vehicle =>
    simp only [Section.declarations, List.forall_mem_cons]
    exact ⟨⟨_, rfl, .inl (.text _), by simp⟩, ⟨_, rfl, .inl (.boolean _), by simp⟩, ⟨_, rfl, .inl (.real _), by simp⟩,
      ⟨_, rfl, .inl (.real _), by simp⟩, ⟨_, rfl, .inl (.whole _), by simp⟩, ⟨_, rfl, .inl (.real _), by simp⟩, by simp⟩
  | interface =>
    simp only [Section.declarations, List.forall_mem_cons]
    exact ⟨⟨_, rfl, .inl (.text _), by simp⟩, ⟨_, rfl, .inl (.whole _), by simp⟩, ⟨_, rfl, .inr ⟨rfl, rfl⟩, by simp⟩,
      ⟨_, rfl, .inl (.text _), by simp⟩, by simp⟩

theorem convert_null (hd : d ∈ part.declarations) (optional : d.optional = true) (text : String) :
    convert d.key .null text = d.kind.read text := by
  have only : d.key = "landing_angle_deg" ∧ d.kind = .real ∨ d.key ≠ "landing_angle_deg" ∧ d.kind = .text := by
    revert d
    cases part <;> decide
  unfold convert
  obtain ⟨named, kind⟩ | ⟨named, kind⟩ := only
  · rw [if_pos named, kind]
    rfl
  · rw [if_neg named, kind]
    rfl

theorem convert_of_fits (hd : d ∈ part.declarations) (fits : d.Fits v) (apart : d.kind = .real → ∀ n, v ≠ .whole n)
    (text : String) : convert d.key v text = d.kind.read text := by
  obtain fits | ⟨optional, rfl⟩ := fits
  · generalize hkind : d.kind = kind at fits apart
    cases fits with
    | integer n => exact absurd rfl (apart rfl n)
    | _ => rfl
  · exact convert_null hd optional text

/-- What a settings file gives: nothing if none is named or if there is none, and otherwise what its document does. -/
inductive FileGives (files : FileTree) : Option String → List FileEntry → Prop
  | unnamed : FileGives files none []
  | absent {path : String} (h : files.exists? (Path.ofText path).toText = .ok false) : FileGives files (some path) []
  | document {path : String} {octets : List UInt8} {cs : List Char} {tree : Yaml.Tree} {entries : List FileEntry}
      (there : files.exists? (Path.ofText path).toText = .ok true) (held : files.read path = .ok octets)
      (decoded : Utf8.text octets = .ok cs) (parsed : Yaml.parse path cs = .ok tree)
      (h : FileEntry.ofDocument? tree = some entries) : FileGives files (some path) entries

structure AreProper (entries : List FileEntry) (assignments : List (String × String)) : Prop where
  named : ∀ e ∈ entries, e.IsOrdinary
  fits : ∀ part, ∀ d ∈ part.declarations, ∀ v, written? entries part d.key = some v → d.Fits v
  aimed : ∀ assignment ∈ assignments, IsOrdinaryVariable assignment
  typed : ∀ part, ∀ d ∈ part.declarations, ∀ text, given? assignments part d.key = some text →
    ∃ v, d.kind.read text = .ok v
  once : ∀ part, ∀ d ∈ part.declarations, (assignments.filter (addresses part d.key)).length ≤ 1

structure AreAsDeclared (entries : List FileEntry) (assignments : List (String × String)) (s : Settings) : Prop where
  varied : ∀ part, ∀ d ∈ part.declarations, ∀ text, given? assignments part d.key = some text →
    ∃ v, d.kind.read text = .ok v ∧ s.find? part d.key = some v
  unvaried : ∀ part, ∀ d ∈ part.declarations, given? assignments part d.key = none →
    s.find? part d.key = (written? entries part d.key).or (Entries.get? part.defaults d.key)
  unknown : ∀ part key, key ∉ part.declarations.map (·.key) → s.find? part key = none

/-- A real number that the file writes as a whole one and that a variable gives as well. -/
structure Clashes (entries : List FileEntry) (assignments : List (String × String)) (part : Section)
    (d : Declaration) (text : String) : Prop where
  declared : d ∈ part.declarations
  real : d.kind = .real
  written : ∃ n, written? entries part d.key = some (.whole n)
  given : given? assignments part d.key = some text

section

variable {files : FileTree} {path : Option String} {entries : List FileEntry}
  {assignments ordered : List (String × String)}

theorem load_of_fileGives (source : FileGives files path entries) (named : ∀ e ∈ entries, e.IsOrdinary) :
    ∃ s : Settings, load files path assignments = s.setVariables assignments ∧ ∀ part key,
      s.find? part key = (Entries.get? part.defaults key).map fun v => (written? entries part key).getD v := by
  obtain ⟨s, applied, finds⟩ := FileEntry.applyAll_eq_ok named {}
  simp only [find?_initial] at finds
  refine ⟨s, ?_, finds⟩
  have after {path : String} (left : readFile files path = .ok s) :
      load files (some path) assignments = s.setVariables assignments := by
    rw [load, left]
    rfl
  cases source with
  | unnamed =>
    cases applied
    rfl
  | @absent path h =>
    cases applied
    apply after
    rw [readFile, h]
    rfl
  | @document path octets cs tree _ there held decoded parsed h =>
    apply after
    rw [readFile, there, held, Fault.ok_bind, Fault.ok_bind, decoded, Fault.ok_bind, parsed, ← applied]
    exact taken_of_ofDocument? h {}

theorem given?_perm (order : ordered.Perm assignments) (once : (assignments.filter (addresses part key)).length ≤ 1) :
    given? ordered part key = given? assignments part key := by
  have among := order.filter (addresses part key)
  have same : ordered.filter (addresses part key) = assignments.filter (addresses part key) := by
    cases aimed : assignments.filter (addresses part key) with
    | nil =>
      rw [aimed] at among
      exact among.eq_nil
    | cons assignment rest =>
      rw [aimed, List.length_cons] at once
      have alone : rest = [] := List.length_eq_zero_iff.mp (by omega)
      rw [aimed, alone] at among
      rw [alone]
      exact List.perm_singleton.mp among
  rw [given?, given?, ← List.head?_filter, ← List.head?_filter, same]

end

section

variable {files : FileTree} {path : Option String} {entries : List FileEntry}
  {assignments ordered : List (String × String)} {s s' : Settings} {text : String}

structure AreLaid (entries : List FileEntry) (s : Settings) : Prop where
  finds : ∀ part key,
    s.find? part key = (Entries.get? part.defaults key).map fun v => (written? entries part key).getD v
  fits : ∀ part, ∀ d ∈ part.declarations, ∀ v, written? entries part d.key = some v → d.Fits v

theorem AreLaid.find?_unknown (laid : AreLaid entries s) (h : key ∉ part.declarations.map (·.key)) :
    s.find? part key = none := by
  rw [Section.keys_declarations] at h
  have absent : Entries.get? part.defaults key = none := by
    rw [Entries.get?, Option.map_eq_none_iff, List.find?_eq_none]
    intro e he same
    exact h (List.mem_map.mpr ⟨e, he, beq_iff_eq.mp same⟩)
  rw [laid.finds, absent]
  rfl

theorem AreLaid.known (laid : AreLaid entries s) (there : (s.find? part key).isSome) :
    ∃ d ∈ part.declarations, d.key = key := by
  by_contra none
  rw [← List.mem_map] at none
  rw [laid.find?_unknown none] at there
  cases there

theorem AreLaid.find?_declared (laid : AreLaid entries s) (hd : d ∈ part.declarations) :
    s.find? part d.key = (written? entries part d.key).or (Entries.get? part.defaults d.key) := by
  obtain ⟨v, initial, -⟩ := default_fits hd
  rw [laid.finds, initial]
  cases written? entries part d.key <;> rfl

theorem AreLaid.fits_declared (laid : AreLaid entries s) (hd : d ∈ part.declarations) :
    ∃ v, s.find? part d.key = some v ∧ d.Fits v ∧
      (d.kind = .real → ∀ n, v = .whole n → written? entries part d.key = some (.whole n)) := by
  obtain ⟨v, initial, fits, apart⟩ := default_fits hd
  rw [laid.find?_declared hd, initial]
  cases written : written? entries part d.key with
  | none => exact ⟨v, rfl, fits, fun real n whole => absurd whole (apart real n)⟩
  | some w => exact ⟨w, rfl, laid.fits part d hd w written, fun _ n whole => congrArg some whole⟩

theorem overlaid_of_clashes (laid : AreLaid entries s) (clash : Clashes entries assignments part d text) :
    overlaid s assignments part d.key = some <$> Kind.whole.read text := by
  obtain ⟨n, written⟩ := clash.written
  have found : s.find? part d.key = some (.whole n) := by
    rw [laid.find?_declared clash.declared, written, Option.some_or]
  rw [overlaid, found, clash.given]
  rfl

theorem overlaid_of_given (laid : AreLaid entries s) (hd : d ∈ part.declarations)
    (given : given? assignments part d.key = some text) (apart : ¬ Clashes entries assignments part d text) :
    overlaid s assignments part d.key = some <$> d.kind.read text := by
  obtain ⟨v, found, fits, whole⟩ := laid.fits_declared hd
  have kept (real : d.kind = .real) (n : Int) : v ≠ .whole n :=
    fun h => apart ⟨hd, real, ⟨n, whole real n h⟩, given⟩
  rw [overlaid, found, given]
  dsimp only
  rw [convert_of_fits hd fits kept]

theorem overlaid_of_not_given (given : given? assignments part key = none) :
    overlaid s assignments part key = .ok (s.find? part key) := by
  rw [overlaid, given]
  cases s.find? part key <;> rfl

theorem overlaid_eq_error_iff (laid : AreLaid entries s) (typed : ∀ part, ∀ d ∈ part.declarations, ∀ text,
      given? assignments part d.key = some text → ∃ v, d.kind.read text = .ok v) :
    (∃ part key fault, overlaid s assignments part key = .error fault) ↔
      ∃ part d text, Clashes entries assignments part d text ∧ ∃ fault, Kind.whole.read text = .error fault := by
  constructor
  · rintro ⟨part, key, fault, lost⟩
    by_cases known : key ∈ part.declarations.map (·.key)
    · obtain ⟨d, hd, rfl⟩ := List.mem_map.mp known
      cases given : given? assignments part d.key with
      | none =>
        rw [overlaid_of_not_given given] at lost
        cases lost
      | some text =>
        by_cases clash : Clashes entries assignments part d text
        · rw [overlaid_of_clashes laid clash] at lost
          cases unread : Kind.whole.read text with
          | error fault => exact ⟨part, d, text, clash, fault, unread⟩
          | ok v =>
            rw [unread] at lost
            cases lost
        · obtain ⟨v, read⟩ := typed part d hd text given
          rw [overlaid_of_given laid hd given clash, read] at lost
          cases lost
    · rw [overlaid_of_none (laid.find?_unknown known)] at lost
      cases lost
  · rintro ⟨part, d, text, clash, fault, unread⟩
    refine ⟨part, d.key, fault, ?_⟩
    rw [overlaid_of_clashes laid clash, unread]
    rfl

theorem areAsDeclared_iff (laid : AreLaid entries s) (typed : ∀ part, ∀ d ∈ part.declarations, ∀ text,
      given? assignments part d.key = some text → ∃ v, d.kind.read text = .ok v)
    (finds : ∀ part key, overlaid s assignments part key = .ok (s'.find? part key)) :
    AreAsDeclared entries assignments s' ↔ ∀ part d text, ¬ Clashes entries assignments part d text := by
  constructor
  · intro as part d text clash
    obtain ⟨v, read, found⟩ := as.varied part d clash.declared text clash.given
    have whole := finds part d.key
    rw [overlaid_of_clashes laid clash, found] at whole
    obtain ⟨w, read', same⟩ := Fault.map_ok whole
    obtain ⟨n, -, rfl⟩ := Fault.map_ok read'
    rw [clash.real] at read
    obtain ⟨x, -, rfl⟩ := Fault.map_ok read
    cases same
  · intro apart
    refine ⟨?_, ?_, ?_⟩
    · intro part d hd text given
      obtain ⟨v, read⟩ := typed part d hd text given
      have found := finds part d.key
      rw [overlaid_of_given laid hd given (apart part d text), read] at found
      exact ⟨v, read, (Except.ok.inj found).symm⟩
    · intro part d hd given
      have found := finds part d.key
      rw [overlaid_of_not_given given, laid.find?_declared hd] at found
      exact (Except.ok.inj found).symm
    · intro part key unknown
      have found := finds part key
      rw [overlaid_of_none (laid.find?_unknown unknown)] at found
      exact (Except.ok.inj found).symm

/-- Settings are loaded as they are declared, in whatever order the variables come, unless the file writes a real number
as a whole one that a variable gives as well; they are not loaded at all if the variable's text is then no whole
number. -/
theorem load_as_declared_iff (source : FileGives files path entries) (proper : AreProper entries assignments)
    (order : ordered.Perm assignments) :
    ((∃ s, load files path ordered = .ok s ∧ AreAsDeclared entries assignments s) ↔
      ∀ part d text, ¬ Clashes entries assignments part d text) ∧
    ((∃ fault, load files path ordered = .error fault) ↔
      ∃ part d text, Clashes entries assignments part d text ∧ ∃ fault, Kind.whole.read text = .error fault) := by
  obtain ⟨s, loaded, finds⟩ := load_of_fileGives source proper.named
  have laid : AreLaid entries s := ⟨finds, proper.fits⟩
  rw [loaded]
  have same (part : Section) (key : String) : overlaid s ordered part key = overlaid s assignments part key := by
    cases there : (s.find? part key).isSome with
    | true =>
      obtain ⟨d, hd, rfl⟩ := laid.known there
      rw [overlaid, overlaid, given?_perm order (proper.once part d hd)]
    | false => rw [overlaid_of_none (by simpa using there), overlaid_of_none (by simpa using there)]
  have aimed : ∀ assignment ∈ ordered, IsOrdinaryVariable assignment :=
    fun assignment h => proper.aimed assignment (order.mem_iff.mp h)
  have once (part : Section) (key : String) (there : (s.find? part key).isSome) :
      (ordered.filter (addresses part key)).length ≤ 1 := by
    obtain ⟨d, hd, rfl⟩ := laid.known there
    rw [(order.filter _).length_eq]
    exact proper.once part d hd
  have lost := overlaid_eq_error_iff laid proper.typed
  generalize set : s.setVariables ordered = result
  cases (set ▸ overlays_setVariables aimed s once).congr same with
  | done finds =>
    rw [← areAsDeclared_iff laid proper.typed finds, ← lost]
    simp [finds]
  | @lost part key fault unlaid =>
    rw [← lost]
    obtain ⟨part', d, text, clash, -⟩ := lost.mp ⟨part, key, fault, unlaid⟩
    refine ⟨iff_of_false ?_ ?_, iff_of_true ?_ ?_⟩
    · rintro ⟨s', ⟨⟩, -⟩
    · exact fun apart => apart part' d text clash
    · exact ⟨fault, rfl⟩
    · exact ⟨part, key, fault, unlaid⟩

end

/-! One value in a file and one variable -/

theorem written?_singleton (e : FileEntry) (part : Section) (key : String) :
    written? [e] part key = if e.isFor part key then some e.value.toValue else none := by
  rw [FileEntry.written?_cons]
  rfl

theorem AreProper.single {e : FileEntry} {assignment : String × String} {part part' : Section} {d d' : Declaration}
    (hd : d ∈ part.declarations) (aimed : e.isFor part d.key = true) (fits : d.Fits e.value.toValue)
    (hd' : d' ∈ part'.declarations) (aimed' : target? assignment.1 = some (part', d'.key))
    (typed : ∃ v, d'.kind.read assignment.2 = .ok v) : AreProper [e] [assignment] where
  named := by
    rw [List.forall_mem_singleton]
    exact ⟨d.key, (FileEntry.isFor_iff.mp aimed).2, Section.key_ordinary hd⟩
  fits := by
    intro part₁ d₁ hd₁ v written
    rw [written?_singleton] at written
    split at written
    next h =>
      obtain ⟨rfl, named⟩ := FileEntry.isFor_iff.mp aimed
      obtain ⟨rfl, named₁⟩ := FileEntry.isFor_iff.mp h
      obtain rfl := Section.eq_of_key hd hd₁ (Value.text.inj (named.symm.trans named₁))
      cases written
      exact fits
    next => cases written
  aimed := by
    rw [List.forall_mem_singleton]
    intro part₁ key aimed₁
    rw [aimed'] at aimed₁
    cases aimed₁
    exact Section.key_ordinary hd'
  typed := by
    intro part₁ d₁ hd₁ text given
    rw [given?_cons] at given
    split at given
    next h =>
      rw [addresses_iff, aimed', Option.some.injEq, Prod.mk.injEq] at h
      obtain ⟨rfl, same⟩ := h
      obtain rfl := Section.eq_of_key hd' hd₁ same
      cases given
      exact typed
    next => cases given
  once := fun part _ _ => List.length_filter_le _ _

theorem whole_of_kind (h : v.kind = "int") : ∃ n, v = .whole n := by
  cases v with
  | whole n => exact ⟨n, rfl⟩
  | around rows => cases rows <;> simp [Value.kind] at h
  | _ => simp [Value.kind] at h

theorem real_of_kind (h : v.kind = "float") : ∃ x, v = .real x := by
  cases v with
  | real x => exact ⟨x, rfl⟩
  | around rows => cases rows <;> simp [Value.kind] at h
  | _ => simp [Value.kind] at h

def givesOne (part : Section) (key kind : String) (entries : List FileEntry) : Bool :=
  entries.length == 1 && entries.all fun e => e.isFor part key && e.value.toValue.kind == kind

theorem FileGives.single {files : FileTree} {name text : String} {part : Section} {key kind : String}
    (h : FileTree.IsFileName name) (stands : files.node? files.workingDirectory = some .directory)
    (held : files.node? (files.workingDirectory ++ [name]) = some (.file (Utf8.octets text)))
    (parsed : ((Yaml.parse name (Utf8.unifyLineEnds text.toList)).toOption.bind FileEntry.ofDocument?).any
      (givesOne part key kind) = true) :
    ∃ e, FileGives files (some name) [e] ∧ e.isFor part key = true ∧ e.value.toValue.kind = kind := by
  have reached := FileTree.place_name h stands
  have there : files.exists? (Path.ofText name).toText = .ok true := by
    rw [Path.ofText_of_isName h.toIsName, FileTree.exists?_of_place reached, held]
    rfl
  have opened : files.read name = .ok (Utf8.octets text) := by
    rw [Path.toText_name h.toIsName] at reached
    exact FileTree.read_of_file reached held
  cases read : Yaml.parse name (Utf8.unifyLineEnds text.toList) with
  | error fault =>
    rw [read] at parsed
    cases parsed
  | ok tree =>
    rw [read] at parsed
    change (FileEntry.ofDocument? tree).any _ = true at parsed
    obtain ⟨entries, given, one⟩ := Option.any_eq_true _ _ |>.mp parsed
    rw [givesOne, Bool.and_eq_true, beq_iff_eq, List.length_eq_one_iff] at one
    obtain ⟨⟨e, rfl⟩, all⟩ := one
    have sole : e.isFor part key = true ∧ e.value.toValue.kind = kind := by simpa using all
    exact ⟨e, .document there opened (Utf8.text_octets text) read given, sole⟩

theorem AreProper.first {e : FileEntry} (aimed : e.isFor .feasibility "max_distance_to_first_waypoint" = true)
    (fits : Kind.real.Fits e.value.toValue) :
    AreProper [e] [("MISCHECK_FEASIBILITY_MAX_DISTANCE_TO_FIRST_WAYPOINT", "900.5")] := by
  have hd : ⟨"max_distance_to_first_waypoint", .real, false⟩ ∈ Section.feasibility.declarations := by decide
  have readable : (Kind.real.read "900.5").isOk = true := by decide +kernel
  refine AreProper.single hd aimed (.inl fits) hd (by decide +kernel) ?_
  cases read : Kind.real.read "900.5" with
  | ok v => exact ⟨v, rfl⟩
  | error fault =>
    rw [read] at readable
    cases readable

theorem load_as_declared_real :
    let files : FileTree :=
      { nodes := [(["c.yaml"], .file (Utf8.octets "feasibility:\n  max_distance_to_first_waypoint: 900.0\n"))] }
    let assignments := [("MISCHECK_FEASIBILITY_MAX_DISTANCE_TO_FIRST_WAYPOINT", "900.5")]
    ∃ entries, FileGives files (some "c.yaml") entries ∧ AreProper entries assignments ∧ assignments.Perm assignments ∧
      ∃ s, load files (some "c.yaml") assignments = .ok s ∧ AreAsDeclared entries assignments s := by
  intro files assignments
  have file : FileTree.IsFileName "c.yaml" := by decide
  obtain ⟨e, gives, aimed, kind⟩ := @FileGives.single files "c.yaml" _ .feasibility "max_distance_to_first_waypoint"
    "float" file rfl rfl (by decide +kernel)
  obtain ⟨x, real⟩ := real_of_kind kind
  have proper := AreProper.first aimed (real ▸ .real x)
  refine ⟨_, gives, proper, .refl _, ?_⟩
  apply (load_as_declared_iff gives proper (.refl _)).1.mpr
  rintro part d text ⟨-, -, ⟨n, written⟩, -⟩
  rw [written?_singleton, real] at written
  split at written <;> cases written

theorem load_whole_written_real_given :
    let files : FileTree :=
      { nodes := [(["c.yaml"], .file (Utf8.octets "feasibility:\n  max_distance_to_first_waypoint: 900\n"))] }
    let assignments := [("MISCHECK_FEASIBILITY_MAX_DISTANCE_TO_FIRST_WAYPOINT", "900.5")]
    ∃ entries, FileGives files (some "c.yaml") entries ∧ AreProper entries assignments ∧
      load files (some "c.yaml") assignments = .error (.malformedWhole 10 "'900.5'") := by
  intro files assignments
  have file : FileTree.IsFileName "c.yaml" := by decide
  obtain ⟨e, gives, aimed, kind⟩ := @FileGives.single files "c.yaml" _ .feasibility "max_distance_to_first_waypoint"
    "int" file rfl rfl (by decide +kernel)
  obtain ⟨n, whole⟩ := whole_of_kind kind
  have proper := AreProper.first aimed (whole ▸ .integer n)
  refine ⟨_, gives, proper, ?_⟩
  obtain ⟨s, loaded, finds⟩ := load_of_fileGives gives proper.named
  let assignment := ("MISCHECK_FEASIBILITY_MAX_DISTANCE_TO_FIRST_WAYPOINT", "900.5")
  have aim : target? assignment.1 = some (.feasibility, "max_distance_to_first_waypoint") := by decide +kernel
  have found : s.find? .feasibility "max_distance_to_first_waypoint" = some (.whole n) := by
    rw [finds, written?_singleton, if_pos aimed, whole]
    rfl
  have unconverted : convert "max_distance_to_first_waypoint" (.whole n) "900.5" =
      .error (.malformedWhole 10 "'900.5'") := by
    have read : (Value.text "900.5").toWhole = .error (.malformedWhole 10 "'900.5'") := by decide +kernel
    change Value.whole <$> (Value.text "900.5").toWhole = _
    rw [read]
    rfl
  rw [loaded, setVariables, List.foldlM_cons, setVariable_eq aim found, unconverted]
  rfl

end Settings

end Preflight
