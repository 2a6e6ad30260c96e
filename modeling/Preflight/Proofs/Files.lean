import Mathlib.Tactic.SplitIfs
import Preflight.Files.Tree
import Preflight.Lookup

namespace Preflight.FileTree

variable {tree tree' : FileTree} {place : List String} {text : String}

theorem node?_put_self (h : place ≠ []) (node : Node) : (tree.put place node).node? place = some node := by
  simp [node?, put, h]

theorem node?_put_of_ne {other : List String} (h : other ≠ place) (node : Node) :
    (tree.put place node).node? other = tree.node? other := by
  rw [node?, node?, put, List.lookup_cons, beq_false_of_ne h]
  change (if other.isEmpty then _ else (tree.nodes.filter (·.1 != place)).lookup other) = _
  rw [lookup_without_of_ne h]

theorem node?_drop_self (h : place ≠ []) : (tree.drop place).node? place = none := by
  simp [node?, drop, h, lookup_without]

theorem node?_drop_of_ne {other : List String} (h : other ≠ place) : (tree.drop place).node? other = tree.node? other := by
  rw [node?, node?, drop, lookup_without_of_ne h]

def SameDirectories (tree tree' : FileTree) : Prop :=
  tree'.workingDirectory = tree.workingDirectory ∧
    ∀ place, tree.node? place = some .directory → tree'.node? place = some .directory

theorem sameDirectories_put (h : tree.node? place ≠ some .directory) (node : Node) :
    SameDirectories tree (tree.put place node) := by
  refine ⟨rfl, fun other hother => ?_⟩
  rw [node?_put_of_ne _ node, hother]
  rintro rfl
  exact h hother

theorem sameDirectories_drop (h : tree.node? place ≠ some .directory) : SameDirectories tree (tree.drop place) := by
  refine ⟨rfl, fun other hother => ?_⟩
  rw [node?_drop_of_ne, hother]
  rintro rfl
  exact h hother

theorem sameDirectories_of_drop (h : place ≠ []) : SameDirectories (tree.drop place) tree := by
  refine ⟨rfl, fun other hother => ?_⟩
  rw [← hother, node?_drop_of_ne]
  rintro rfl
  rw [node?_drop_self h] at hother
  exact nomatch hother

theorem walk_of_sameDirectories (same : SameDirectories tree tree') {start : List String} {names : List String}
    (h : tree.walk start names = .ok place) : tree'.walk start names = .ok place := by
  induction names generalizing start with
  | nil => exact h
  | cons name rest ih =>
    rw [walk] at h ⊢
    cases hstart : tree.node? start with
    | none =>
      rw [hstart] at h
      cases h
    | some node =>
      cases node with
      | file octets =>
        rw [hstart] at h
        cases h
      | directory =>
        rw [hstart] at h
        rw [same.2 start hstart]
        dsimp only at h ⊢
        -- Both walks take the same way, since a name alone decides how it is taken.
        split_ifs at h ⊢
        · exact ih h
        · exact ih h
        · exact ih h

theorem place_of_sameDirectories (same : SameDirectories tree tree') (h : tree.place text = .ok place) :
    tree'.place text = .ok place := by
  unfold FileTree.place at h ⊢
  rw [same.1]
  grind [walk_of_sameDirectories same]

def held? (tree : FileTree) (place : List String) : Option (List UInt8) :=
  match tree.node? place with
  | some .directory => none
  | some (.file octets) => some octets
  | none => some []

theorem held?_put_self (h : place ≠ []) (octets : List UInt8) :
    (tree.put place (.file octets)).held? place = some octets := by
  rw [held?, node?_put_self h]

theorem node?_of_held? {octets : List UInt8} (h : tree.held? place = some octets) :
    place ≠ [] ∧ tree.node? place ≠ some .directory := by
  have other : tree.node? place ≠ some .directory := by
    intro directory
    rw [held?, directory] at h
    cases h
  refine ⟨?_, other⟩
  rintro rfl
  exact other rfl

theorem about_eq_ok {α : Type} {x : Except FileFault α} {a : α} : about text x = .ok a ↔ x = .ok a := by
  cases x <;> simp [about, Except.mapError]

theorem update_eq_ok {change : List UInt8 → List UInt8} : tree.update text change = .ok tree' ↔
    ∃ place octets, tree.place text = .ok place ∧ tree.held? place = some octets ∧
      tree.put place (.file (change octets)) = tree' := by
  unfold update
  cases tree.place text with
  | error fault => simp [bind, Except.bind, about_eq_ok]
  | ok place =>
    change about text (match tree.node? place with
      | some .directory => .error .isDirectory
      | some (.file octets) => .ok (tree.put place (.file (change octets)))
      | none => .ok (tree.put place (.file (change [])))) = _ ↔ _
    cases h : tree.node? place with
    | none => simp [held?, h, about_eq_ok]
    | some node => cases node <;> simp [held?, h, about_eq_ok]

theorem update_update {change : List UInt8 → List UInt8} (h : tree.update text change = .ok tree')
    (change' : List UInt8 → List UInt8) : ∃ tree'', tree'.update text change' = .ok tree'' := by
  obtain ⟨place, octets, hplace, hheld, rfl⟩ := update_eq_ok.mp h
  obtain ⟨below, file⟩ := node?_of_held? hheld
  have there := place_of_sameDirectories (sameDirectories_put file (.file (change octets))) hplace
  exact ⟨_, update_eq_ok.mpr ⟨place, _, there, held?_put_self below _, rfl⟩⟩

theorem exists?_eq_false :
    tree.exists? text = .ok false ↔ ∃ fault, tree.find text = .error fault ∧ fault ≠ .nameTooLong := by
  unfold exists?
  cases tree.find text with
  | ok node => simp
  | error fault => cases fault <;> simp

theorem read_of_unfound {fault : FileFault} (h : tree.find text = .error fault) :
    tree.read text = .error (.file fault text) := by
  unfold read
  rw [h]
  rfl

theorem remove_eq_ok : tree.remove text = .ok tree' ↔
    ∃ place octets, tree.place text = .ok place ∧ tree.node? place = some (.file octets) ∧ tree' = tree.drop place := by
  unfold remove
  cases there : tree.place text with
  | error fault => simp [bind, Except.bind, about_eq_ok]
  | ok place =>
    cases found : tree.node? place with
    | none => simp [bind, Except.bind, found, about_eq_ok]
    | some node => cases node <;> simp [bind, Except.bind, found, about_eq_ok, eq_comm (a := tree')]

section

variable (there : tree.place text = .ok place)

include there

theorem find_of_place : tree.find text = match tree.node? place with
    | some node => .ok node
    | none => .error .missing := by
  unfold find
  rw [there]
  rfl

theorem exists?_of_place : tree.exists? text = .ok (tree.node? place).isSome := by
  unfold exists?
  rw [find_of_place there]
  cases tree.node? place <;> rfl

theorem read_of_file {octets : List UInt8} (h : tree.node? place = some (.file octets)) :
    tree.read text = .ok octets := by
  unfold read
  rw [find_of_place there, h]
  rfl

theorem read_of_none (h : tree.node? place = none) : tree.read text = .error (.file .missing text) := by
  unfold read
  rw [find_of_place there, h]
  rfl

theorem write_of_place (h : tree.node? place ≠ some .directory) (octets : List UInt8) :
    tree.write text octets = .ok (tree.put place (.file octets)) := by
  have held : ∃ before, tree.held? place = some before := by
    unfold held?
    split
    next directory => exact absurd directory h
    · exact ⟨_, rfl⟩
    · exact ⟨_, rfl⟩
  obtain ⟨before, held⟩ := held
  exact update_eq_ok.mpr ⟨place, before, there, held, rfl⟩

theorem remove_of_file {octets : List UInt8} (h : tree.node? place = some (.file octets)) :
    tree.remove text = .ok (tree.drop place) := by
  unfold remove
  rw [there]
  change about text (match tree.node? place with
    | some .directory => .error .isDirectory
    | some (.file _) => .ok (tree.drop place)
    | none => .error .missing) = _
  rw [h]
  rfl

end

end Preflight.FileTree
