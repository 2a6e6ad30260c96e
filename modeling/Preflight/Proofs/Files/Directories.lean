import Preflight.Proofs.Files.Paths
import Preflight.Proofs.Reads

namespace Preflight.FileTree

open Preflight.Path

variable {tree : FileTree} {place start : List String} {name : String}

theorem walk_append (names more : List String) :
    tree.walk start (names ++ more) = tree.walk start names >>= fun place => tree.walk place more := by
  induction names generalizing start with
  | nil => rfl
  | cons name rest ih =>
    rw [List.cons_append, walk, walk]
    cases tree.node? start with
    | none => rfl
    | some node =>
      cases node with
      | file octets => rfl
      | directory =>
        dsimp only
        split
        · exact ih
        · split
          · exact ih
          · split
            · rfl
            · exact ih

structure IsFileName (name : String) : Prop extends IsName name where
  octet : '\x00' ∉ name.toList
  down : name ≠ ".."
  short : name.utf8ByteSize ≤ longestName

instance (name : String) : Decidable (IsFileName name) :=
  decidable_of_iff (IsName name ∧ '\x00' ∉ name.toList ∧ name ≠ ".." ∧ name.utf8ByteSize ≤ longestName)
    ⟨fun h => ⟨h.1, h.2.1, h.2.2.1, h.2.2.2⟩, fun h => ⟨h.toIsName, h.octet, h.down, h.short⟩⟩

theorem walk_file (stands : tree.node? place = some .directory) (h : IsFileName name) :
    tree.walk place [name] = .ok (place ++ [name]) := by
  have kept : ¬ (name = "" ∨ name = ".") := not_or.mpr h.kept
  have short : ¬ longestName < name.utf8ByteSize := Nat.not_lt.mpr h.short
  rw [walk, stands]
  dsimp only
  rw [if_neg kept, if_neg h.down, if_neg short]
  rfl

theorem walk_ne_unusable (names : List String) : tree.walk start names ≠ .error .unusable := by
  induction names generalizing start with
  | nil => simp [walk]
  | cons name rest ih =>
    rw [walk]
    split
    · simp
    · simp
    · split
      · exact ih
      · split
        · exact ih
        · split
          · simp
          · exact ih

theorem find_ne_unusable {text : String} (octet : '\x00' ∉ text.toList) : tree.find text ≠ .error .unusable := by
  have reached : tree.place text ≠ .error .unusable := by
    unfold FileTree.place
    rw [String.contains_char_eq, decide_eq_false octet]
    split
    · contradiction
    · split
      · exact nofun
      · split
        · exact nofun
        · exact walk_ne_unusable _
  intro unusable
  cases there : tree.place text with
  | error fault =>
    rw [find, there] at unusable
    rw [there] at reached
    exact reached (congrArg Except.error (Except.error.inj unusable))
  | ok place =>
    rw [find_of_place there] at unusable
    split at unusable
    · exact nomatch unusable
    · exact nomatch unusable

theorem stands_of_walk {names : List String} (walked : tree.walk start (name :: names) = .ok place) :
    tree.node? start = some .directory := by
  rw [walk] at walked
  cases node : tree.node? start with
  | none =>
    rw [node] at walked
    cases walked
  | some found =>
    cases found with
    | directory => rfl
    | file octets =>
      rw [node] at walked
      cases walked

def startOf (tree : FileTree) (p : Path) : List String := if p.isRooted then [] else tree.workingDirectory

theorem toText_ne_empty (p : Path) : p.toText ≠ "" := by
  unfold toText
  dsimp only
  split
  · decide
  next given => exact fun h => given (String.isEmpty_iff.mpr h)

section

variable {p : Path} (octet : '\x00' ∉ p.toText.toList)

include octet

theorem place_of_long (long : longestPath < p.toText.utf8ByteSize) : tree.place p.toText = .error .nameTooLong := by
  have given : p.toText.isEmpty = false := by simpa using toText_ne_empty p
  unfold FileTree.place
  rw [String.contains_char_eq, given]
  simp [octet, long]

theorem place_of_short (plain : p.IsPlain) (short : p.toText.utf8ByteSize ≤ longestPath) :
    tree.place p.toText = tree.walk (tree.startOf p) (cut p.toText) := by
  have given : p.toText.isEmpty = false := by simpa using toText_ne_empty p
  have within : ¬ longestPath < p.toText.utf8ByteSize := Nat.not_lt.mpr short
  unfold FileTree.place
  rw [String.contains_char_eq, given, startsWith_toText plain, ← startOf]
  simp [octet, within]

end

theorem place_name (h : IsFileName name) (stands : tree.node? tree.workingDirectory = some .directory) :
    tree.place (⟨"", [name]⟩ : Path).toText = .ok (tree.workingDirectory ++ [name]) := by
  have octet : '\x00' ∉ (⟨"", [name]⟩ : Path).toText.toList := by
    rw [toText_name h.toIsName]
    exact h.octet
  have short : (⟨"", [name]⟩ : Path).toText.utf8ByteSize ≤ longestPath := by
    rw [toText_name h.toIsName]
    exact Nat.le_trans h.short (by decide)
  rw [place_of_short octet (isPlain_name h.toIsName) short, toText_name h.toIsName, cut, List.splitOn_eq_singleton h.slash,
    List.map_singleton, String.ofList_toList]
  exact walk_file stands h

theorem place_eq_ok {p : Path} (plain : p.IsPlain) : tree.place p.toText = .ok place ↔
    '\x00' ∉ p.toText.toList ∧ p.toText.utf8ByteSize ≤ longestPath ∧
      tree.walk (tree.startOf p) (cut p.toText) = .ok place := by
  by_cases octet : '\x00' ∈ p.toText.toList
  · have unusable : tree.place p.toText = .error .unusable := by
      unfold FileTree.place
      rw [String.contains_char_eq]
      simp [octet]
    simp [unusable, octet]
  · by_cases long : longestPath < p.toText.utf8ByteSize
    · simp [place_of_long octet long, Nat.not_le.mpr long]
    · have short := Nat.not_lt.mp long
      simp [place_of_short octet plain short, octet, short]

theorem place_of_child {p : Path} (plain : p.IsPlain) (h : IsFileName name) {reached : List String}
    (there : tree.place (p.child name).toText = .ok reached) :
    ∃ place, reached = place ++ [name] ∧ tree.node? place = some .directory ∧
      tree.walk (tree.startOf p) (p.lead ++ p.names) = .ok place := by
  have start : tree.startOf (p.child name) = tree.startOf p := by
    rw [child_of_isName p h.toIsName]
    rfl
  obtain ⟨-, -, walked⟩ := (place_eq_ok (isPlain_child plain h.toIsName)).mp there
  rw [cut_child plain h.toIsName, walk_append, start] at walked
  cases above : tree.walk (tree.startOf p) (p.lead ++ p.names) with
  | error fault =>
    rw [above] at walked
    cases walked
  | ok place =>
    rw [above] at walked
    change tree.walk place [name] = .ok reached at walked
    have stands := stands_of_walk walked
    rw [walk_file stands h] at walked
    exact ⟨place, (Except.ok.inj walked).symm, stands, rfl⟩

theorem place_beside {p : Path} (plain : p.IsPlain) {beside : String} (h : IsFileName name) (h' : IsFileName beside)
    (size : beside.utf8ByteSize ≤ name.utf8ByteSize) (there : tree.place (p.child name).toText = .ok (place ++ [name])) :
    tree.place (p.child beside).toText = .ok (place ++ [beside]) := by
  obtain ⟨above, same, stands, walked⟩ := place_of_child plain h there
  obtain ⟨rfl, -⟩ := List.append_inj' same rfl
  obtain ⟨octet, short, -⟩ := (place_eq_ok (isPlain_child plain h.toIsName)).mp there
  obtain ⟨before, text⟩ := toText_child plain
  rw [text name h.toIsName] at octet short
  have start : tree.startOf (p.child beside) = tree.startOf p := by
    rw [child_of_isName p h'.toIsName]
    rfl
  rw [place_eq_ok (isPlain_child plain h'.toIsName)]
  refine ⟨?_, ?_, ?_⟩
  · rw [text beside h'.toIsName, String.toList_append, List.mem_append, not_or]
    rw [String.toList_append, List.mem_append, not_or] at octet
    exact ⟨octet.1, h'.octet⟩
  · rw [text beside h'.toIsName, String.utf8ByteSize_append]
    rw [String.utf8ByteSize_append] at short
    omega
  · rw [cut_child plain h'.toIsName, walk_append, start, walked]
    exact walk_file stands h'

theorem walk_names {p : Path} (plain : p.IsPlain) (there : tree.place p.toText = .ok place) :
    tree.walk (tree.startOf p) (p.lead ++ p.names) = .ok place := by
  obtain ⟨-, -, walked⟩ := (place_eq_ok plain).mp there
  by_cases named : p.names = []
  · obtain ⟨root, names⟩ := p
    obtain rfl : names = [] := named
    rcases plain.root with h | h | h
    · obtain rfl : root = "" := h
      change tree.walk tree.workingDirectory ["."] = .ok place at walked
      change Except.ok tree.workingDirectory = _
      have stands := stands_of_walk walked
      simpa [walk, stands] using walked
    · obtain rfl : root = "/" := h
      exact walked
    · obtain rfl : root = "//" := h
      exact walked
  · rwa [cut_toText plain named] at walked

section

variable {p : Path} (plain : p.IsPlain)

include plain

theorem not_mem_child (above : '\x00' ∉ p.toText.toList) (h : IsName name) (octet : '\x00' ∉ name.toList) :
    '\x00' ∉ (p.child name).toText.toList := by
  rw [mem_toText plain (by decide) (by decide)] at above
  rw [mem_toText (isPlain_child plain h) (by decide) (by decide), child_of_isName p h]
  rintro ⟨other, hother, hoctet⟩
  rcases List.mem_append.mp hother with hother | hother
  · exact above ⟨other, hother, hoctet⟩
  · rw [List.mem_singleton.mp hother] at hoctet
    exact octet hoctet

variable (there : tree.place p.toText = .ok place)

include there

theorem walk_child (h : IsName name) :
    tree.walk (tree.startOf (p.child name)) (cut (p.child name).toText) = tree.walk place [name] := by
  have start : tree.startOf (p.child name) = tree.startOf p := by
    rw [child_of_isName p h]
    rfl
  rw [cut_child plain h, walk_append, start, walk_names plain there]
  rfl

variable (stands : tree.node? place = some .directory)

include stands

theorem place_child (h : IsFileName name) (short : (p.child name).toText.utf8ByteSize ≤ longestPath) :
    tree.place (p.child name).toText = .ok (place ++ [name]) := by
  have octet := not_mem_child plain ((place_eq_ok plain).mp there).1 h.toIsName h.octet
  rw [place_of_short octet (isPlain_child plain h.toIsName) short, walk_child plain there h.toIsName]
  exact walk_file stands h

omit plain there stands in
theorem size_child_name {directory : String} (hdirectory : IsFileName directory) (h : IsFileName name) :
    ((⟨"", [directory]⟩ : Path).child name).toText.utf8ByteSize ≤ longestPath := by
  have child := child_of_isName ⟨"", [directory]⟩ h.toIsName
  have plain := isPlain_child (isPlain_name hdirectory.toIsName) h.toIsName
  have text : ((⟨"", [directory]⟩ : Path).child name).toText = directory ++ "/" ++ name := by
    rw [toText_eq plain (by simp [child]), child]
    simp
  have slash : "/".utf8ByteSize = 1 := rfl
  have before := hdirectory.short
  have after := h.short
  rw [longestName] at before after
  rw [text, String.utf8ByteSize_append, String.utf8ByteSize_append, longestPath]
  omega

omit plain there stands in
theorem place_name_child {directory : String} (hdirectory : IsFileName directory) (h : IsFileName name)
    (stands : tree.node? tree.workingDirectory = some .directory)
    (holds : tree.node? (tree.workingDirectory ++ [directory]) = some .directory) :
    tree.place ((⟨"", [directory]⟩ : Path).child name).toText = .ok (tree.workingDirectory ++ [directory] ++ [name]) :=
  place_child (isPlain_name hdirectory.toIsName) (place_name hdirectory stands) holds h (size_child_name hdirectory h)

theorem place_child_of_missing (h : IsName name) (octet : '\x00' ∉ name.toList) (down : name ≠ "..")
    (missing : tree.find (p.child name).toText = .error .missing) :
    tree.place (p.child name).toText = .ok (place ++ [name]) ∧ tree.node? (place ++ [name]) = none := by
  have octet' := not_mem_child plain ((place_eq_ok plain).mp there).1 h octet
  have reached : tree.place (p.child name).toText = .ok (place ++ [name]) := by
    by_cases short : (p.child name).toText.utf8ByteSize ≤ longestPath
    · by_cases long : longestName < name.utf8ByteSize
      · have refused : tree.walk place [name] = .error .nameTooLong := by
          rw [walk, stands]
          simp [h.kept, down, long]
        rw [find, place_of_short octet' (isPlain_child plain h) short, walk_child plain there h, refused] at missing
        cases missing
      · exact place_child plain there stands ⟨h, octet, down, Nat.not_lt.mp long⟩ short
    · rw [find, place_of_long octet' (Nat.not_le.mp short)] at missing
      cases missing
  refine ⟨reached, ?_⟩
  rw [find_of_place reached] at missing
  split at missing
  · cases missing
  next absent => exact absent

end

def Stands (tree : FileTree) (text : String) (place : List String) : Prop :=
  tree.place text = .ok place ∧ tree.node? place = some .directory

theorem isDirectory_iff {text : String} : tree.isDirectory text = true ↔ ∃ place, tree.Stands text place := by
  unfold isDirectory find Stands
  cases tree.place text with
  | error fault => simp [bind, Except.bind]
  | ok place =>
    cases h : tree.node? place with
    | none => simp [bind, Except.bind, h]
    | some node => cases node <;> simp [bind, Except.bind, h]

theorem Stands.sameDirectories {tree' : FileTree} {text : String} (same : SameDirectories tree tree')
    (h : tree.Stands text place) : tree'.Stands text place :=
  ⟨place_of_sameDirectories same h.1, same.2 place h.2⟩

theorem stands_of_makeDirectory {tree' : FileTree} {text : String} (h : tree.makeDirectory text = .ok tree') :
    ∃ place, tree'.Stands text place := by
  unfold makeDirectory at h
  cases there : tree.place text with
  | error fault =>
    rw [there] at h
    cases h
  | ok place =>
    rw [there] at h
    simp only [bind, Except.bind] at h
    cases empty : tree.node? place with
    | some node =>
      rw [empty] at h
      cases h
    | none =>
      rw [empty] at h
      cases h
      have below : place ≠ [] := by
        rintro rfl
        cases empty
      have free : tree.node? place ≠ some .directory := by simp [empty]
      exact ⟨place, place_of_sameDirectories (sameDirectories_put free .directory) there, node?_put_self below _⟩

theorem makeDirectory_of_stands {text : String} (h : tree.Stands text place) :
    tree.makeDirectory text = .error .exists := by
  unfold makeDirectory
  rw [h.1]
  simp only [bind, Except.bind]
  rw [h.2]

theorem stands_of_settleDirectory {tree' : FileTree} {text : String}
    (h : tree.settleDirectory text (tree.makeDirectory text) = .ok tree') : ∃ place, tree'.Stands text place := by
  cases made : tree.makeDirectory text with
  | ok tree =>
    rw [made] at h
    cases h
    exact stands_of_makeDirectory made
  | error fault =>
    rw [made, settleDirectory] at h
    split at h
    next stands =>
      cases h
      exact isDirectory_iff.mp stands
    next => cases h

theorem stands_of_makeDirectories {tree' : FileTree} {p : Path} (h : tree.makeDirectories p = .ok tree') :
    ∃ place, tree'.Stands p.toText place := by
  unfold makeDirectories at h
  unfold makeDirectoriesAt at h
  split at h
  · obtain ⟨above, -, h⟩ := Fault.bind_ok h
    exact stands_of_settleDirectory h
  · exact stands_of_settleDirectory h

theorem makeDirectories_of_stands {p : Path} (h : tree.Stands p.toText place) : tree.makeDirectories p = .ok tree := by
  have there := isDirectory_iff.mpr ⟨place, h⟩
  have made := makeDirectory_of_stands h
  unfold makeDirectories makeDirectoriesAt
  rw [made]
  cases p.names.length <;> simp [settleDirectory, there]

theorem makeDirectories_name (h : IsFileName name) (stands : tree.node? tree.workingDirectory = some .directory)
    (free : tree.node? (tree.workingDirectory ++ [name]) = none) :
    tree.makeDirectories ⟨"", [name]⟩ = .ok (tree.put (tree.workingDirectory ++ [name]) .directory) := by
  have made : tree.makeDirectory (⟨"", [name]⟩ : Path).toText =
      .ok (tree.put (tree.workingDirectory ++ [name]) .directory) := by
    rw [makeDirectory, place_name h stands]
    simp only [bind, Except.bind]
    rw [free]
  unfold makeDirectories makeDirectoriesAt
  rw [made]
  rfl

def nameUnder? (place other : List String) : Option String :=
  if other.dropLast = place then other.getLast? else none

theorem nameUnder?_eq_some {other : List String} : nameUnder? place other = some name ↔ other = place ++ [name] := by
  unfold nameUnder?
  constructor
  · intro h
    split at h
    next above =>
      obtain ⟨before, rfl⟩ := List.getLast?_eq_some_iff.mp h
      rw [← above, List.dropLast_concat]
    next => cases h
  · rintro rfl
    simp

def namesUnder (tree : FileTree) (place : List String) : List String :=
  tree.nodes.filterMap fun entry => nameUnder? place entry.1

theorem namesIn_of_stands {text : String} (h : tree.Stands text place) : tree.namesIn text = tree.namesUnder place := by
  have there := isDirectory_iff.mpr ⟨place, h⟩
  unfold namesIn
  rw [h.1]
  dsimp only
  rw [if_pos there]
  rfl

theorem mem_namesUnder : name ∈ tree.namesUnder place ↔ ∃ node, (place ++ [name], node) ∈ tree.nodes := by
  unfold namesUnder
  rw [List.mem_filterMap]
  constructor
  · rintro ⟨⟨other, node⟩, listed, named⟩
    rw [nameUnder?_eq_some] at named
    obtain rfl : other = place ++ [name] := named
    exact ⟨node, listed⟩
  · rintro ⟨node, listed⟩
    exact ⟨_, listed, nameUnder?_eq_some.mpr rfl⟩

theorem mem_namesIn {text : String} :
    name ∈ tree.namesIn text ↔ ∃ place, tree.Stands text place ∧ name ∈ tree.namesUnder place := by
  constructor
  · intro h
    have there : tree.isDirectory text = true := by
      unfold namesIn at h
      split at h
      · exact nomatch h
      · split at h
        next there => exact there
        next => exact nomatch h
    obtain ⟨place, stands⟩ := isDirectory_iff.mp there
    rw [namesIn_of_stands stands] at h
    exact ⟨place, stands, h⟩
  · rintro ⟨place, stands, h⟩
    rwa [namesIn_of_stands stands]

theorem mem_namesUnder_drop {dropped : List String} :
    name ∈ (tree.drop dropped).namesUnder place ↔ name ∈ tree.namesUnder place ∧ place ++ [name] ≠ dropped := by
  simp [mem_namesUnder, drop]

theorem mem_namesIn_drop {text : String} {dropped : List String} {octets : List UInt8}
    (file : tree.node? dropped = some (.file octets)) : name ∈ (tree.drop dropped).namesIn text ↔
      ∃ place, tree.Stands text place ∧ name ∈ tree.namesUnder place ∧ place ++ [name] ≠ dropped := by
  have other : tree.node? dropped ≠ some .directory := by simp [file]
  have below : dropped ≠ [] := by
    rintro rfl
    exact other rfl
  simp only [mem_namesIn, mem_namesUnder_drop]
  constructor
  · rintro ⟨place, stands, listed⟩
    exact ⟨place, stands.sameDirectories (sameDirectories_of_drop below), listed⟩
  · rintro ⟨place, stands, listed⟩
    exact ⟨place, stands.sameDirectories (sameDirectories_drop other), listed⟩

theorem namesUnder_drop : (tree.drop (place ++ [name])).namesUnder place = (tree.namesUnder place).filter (· != name) := by
  unfold drop namesUnder
  dsimp only
  induction tree.nodes with
  | nil => rfl
  | cons entry rest ih =>
    by_cases here : entry.1 = place ++ [name]
    · have named : nameUnder? place entry.1 = some name := nameUnder?_eq_some.mpr here
      rw [List.filter_cons_of_neg (by simp [here]), ih]
      simp [named]
    · rw [List.filter_cons_of_pos (by simpa using here)]
      cases named : nameUnder? place entry.1 with
      | none => simpa [List.filterMap_cons, named] using ih
      | some other =>
        have apart : other ≠ name := by
          rintro rfl
          exact here (nameUnder?_eq_some.mp named)
        simpa [List.filterMap_cons, named, apart] using ih

theorem namesUnder_put (node : Node) :
    (tree.put (place ++ [name]) node).namesUnder place = name :: (tree.namesUnder place).filter (· != name) := by
  have named : nameUnder? place (place ++ [name]) = some name := nameUnder?_eq_some.mpr rfl
  rw [← namesUnder_drop]
  simp [put, drop, namesUnder, named]

theorem node?_eq_none : tree.node? (place ++ [name]) = none ↔ name ∉ tree.namesUnder place := by
  rw [node?, if_neg (by simp), List.lookup_eq_none_iff, mem_namesUnder, not_exists]
  constructor
  · intro apart node listed
    simpa using apart _ listed
  · rintro unlisted ⟨other, node⟩ listed
    have apart : place ++ [name] ≠ other := by
      rintro rfl
      exact unlisted node listed
    simpa using apart

end Preflight.FileTree
