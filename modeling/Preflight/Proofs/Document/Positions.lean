import Mathlib.Data.List.Forall2
import Preflight.Proofs.Document.Leaves
import Preflight.Proofs.Document.Refusals
import Preflight.Proofs.Pass.Cited

namespace Preflight.Document

open Fault
open Document.Node (outcome)

variable {v : Value} {entries mission : Entries} {leaves : List Value}

theorem Node.leaf?_eq_some {node : Node} {leaf : Value} :
    node.leaf? = some leaf ↔ node = entry leaf ∧ ∃ fields, leaf = .mapping fields ∧ IsSimple fields := by
  unfold leaf?
  split
  next fields =>
    rw [Option.ite_none_right_eq_some, isSimple_iff]
    constructor
    · rintro ⟨simple, ⟨⟩⟩
      exact ⟨rfl, fields, rfl, simple⟩
    · rintro ⟨⟨⟩, _, ⟨⟩, simple⟩
      exact ⟨simple, rfl⟩
  next other =>
    refine iff_of_false nofun ?_
    rintro ⟨rfl, fields, rfl, -⟩
    exact other fields rfl

theorem flatten_list (values : List Value) :
    flatten (.list values) = outcome (values.flatMap fun v => (Node.entry v).preorder) := by
  rw [flatten_eq, Node.preorder_list]
  exact Node.outcome_cons_silent rfl rfl _

theorem flatten_append (values values' : List Value) : flatten (.list (values ++ values')) =
    flatten (.list values) >>= fun leaves => flatten (.list values') >>= fun more => pure (leaves ++ more) := by
  simp only [flatten_list, List.flatMap_append, Node.outcome_append]

theorem flattenEntry_simple {fields : Entries} (h : IsSimple fields) :
    flattenEntry (.mapping fields) = .ok [.mapping fields] := by
  rw [flattenEntry, if_pos (isSimple_iff.mpr h)]

theorem mem_of_flatten {leaf : Value} (h : flatten v = .ok leaves) (hleaf : leaf ∈ leaves) :
    ∃ fields, leaf = .mapping fields ∧ IsSimple fields := by
  rw [flatten_eq, outcome] at h
  split at h
  · cases h
  · obtain rfl := Except.ok.inj h
    obtain ⟨node, -, found⟩ := List.mem_filterMap.mp hleaf
    exact (Node.leaf?_eq_some.mp found).2

theorem flatten_leaves (h : ∀ leaf ∈ leaves, ∃ fields, leaf = .mapping fields ∧ IsSimple fields) :
    flatten (.list leaves) = .ok leaves := by
  rw [flatten]
  induction leaves with
  | nil => rw [flattenEntries]
  | cons leaf rest ih =>
    rw [List.forall_mem_cons] at h
    obtain ⟨⟨fields, rfl, simple⟩, later⟩ := h
    rw [flattenEntries_cons, flattenEntry_simple simple, ih later]
    rfl

theorem flatten_flatten (h : flatten v = .ok leaves) : flatten (.list leaves) = .ok leaves :=
  flatten_leaves fun _ hleaf => mem_of_flatten h hleaf

theorem atPosition_eq_ok {position : Nat} {x : Except Fault Item} {item : Item} :
    Item.atPosition position x = .ok item ↔ x = .ok item := refusing_eq_ok

theorem planItemsFrom_eq_ok {position : Nat} {items : List Item} (h : planItemsFrom position leaves = .ok items) :
    List.Forall₂ (fun leaf item => planItem leaf = .ok item) leaves items := by
  induction leaves generalizing position items with
  | nil =>
    obtain rfl := Except.ok.inj h
    exact .nil
  | cons leaf rest ih =>
    obtain ⟨item, first, h⟩ := bind_ok h
    obtain ⟨others, later, h⟩ := bind_ok h
    obtain rfl := Except.ok.inj h
    exact .cons (atPosition_eq_ok.mp first) (ih later)

theorem planItemsFrom_refused {position : Nat} {before after : List Value} {leaf : Value} {reason : String}
    (read : ∀ earlier ∈ before, Reads? planItem earlier) (refused : planItem leaf = .error (.invalid reason)) :
    planItemsFrom position (before ++ leaf :: after) =
      .error (.invalid s!"Item {position + before.length}: {reason}") := by
  induction before generalizing position with
  | nil =>
    rw [List.nil_append, planItemsFrom, refused]
    rfl
  | cons earlier before ih =>
    rw [List.forall_mem_cons] at read
    obtain ⟨⟨item, first⟩, later⟩ := read
    rw [List.cons_append, planItemsFrom, atPosition_eq_ok.mpr first, ih later, List.length_cons,
      Nat.add_right_comm position 1, Nat.add_assoc]
    rfl

theorem getElem?_of_forall₂ {items : List Item}
    (h : List.Forall₂ (fun leaf item => planItem leaf = .ok item) leaves items) {index : Nat} {item : Item}
    (hitem : items[index]? = some item) : ∃ leaf, leaves[index]? = some leaf ∧ planItem leaf = .ok item := by
  obtain ⟨hi, rfl⟩ := List.getElem?_eq_some_iff.mp hitem
  have hleaf : index < leaves.length := by rw [h.length_eq]; exact hi
  exact ⟨leaves[index], List.getElem?_eq_getElem hleaf, h.get hleaf hi⟩

/-- A plan is read by its leaves: there is one item for each, in order, the first one that is refused is cited by its
position, from one, and so is what a checker finds in the items. -/
structure ReadsLeaves (entries mission : Entries) (leaves : List Value) : Prop where
  items : ∀ d, ofPlan (.mapping entries) = .ok d →
    List.Forall₂ (fun leaf item => planItem leaf = .ok item) leaves d.items
  read : ∀ home fence, (∀ leaf ∈ leaves, Reads? planItem leaf) → plannedHome (.mapping mission) = .ok home →
    fenceUnder (.mapping entries) "geoFence" = .ok fence → ∃ items, ofPlan (.mapping entries) = .ok ⟨items, home, fence⟩
  refused : ∀ before leaf after reason, leaves = before ++ leaf :: after →
    (∀ earlier ∈ before, Reads? planItem earlier) → planItem leaf = .error (.invalid reason) →
      ofPlan (.mapping entries) = .error (.invalid s!"Item {before.length + 1}: {reason}")
  cited : ∀ (σ : Type) (c : Checker σ) (handle : Mission) (limits : Limits) (store : σ) (d : Document)
    (verdict : Verdict), ofPlan (.mapping entries) = .ok d → c.Holds handle d.items store →
      (c.check handle limits store).verdict = .ok verdict → ∀ diagnostic ∈ verdict.diagnostics, ∃ f : Finding,
        diagnostic = f.diagnostic ∧ ∀ n, diagnostic.item = some n → ∃ (index : Nat) (leaf : Value) (item : Item),
          n = index + 1 ∧ leaves[index]? = some leaf ∧ planItem leaf = .ok item ∧ f.Suits (c.context handle) item

theorem ofPlan_eq (given : entries.get? "mission" = some (.mapping mission)) : ofPlan (.mapping entries) =
    sections (flatten (mission.getD "items" (.list [])) >>= planItemsFrom 1) (plannedHome (.mapping mission))
      (fenceUnder (.mapping entries) "geoFence") := by
  rcases ofPlan_cases entries with ⟨mission', given', found⟩ | ⟨none, -⟩
  · obtain rfl : mission' = mission := by simpa [given] using given'.symm
    exact found
  · exact absurd given (none mission)

theorem readsLeaves (given : entries.get? "mission" = some (.mapping mission))
    (flat : flatten (mission.getD "items" (.list [])) = .ok leaves) : ReadsLeaves entries mission leaves := by
  have found : ofPlan (.mapping entries) = sections (planItemsFrom 1 leaves) (plannedHome (.mapping mission))
      (fenceUnder (.mapping entries) "geoFence") := by
    rw [ofPlan_eq given, flat]
    rfl
  have matched : ∀ d, ofPlan (.mapping entries) = .ok d →
      List.Forall₂ (fun leaf item => planItem leaf = .ok item) leaves d.items := by
    intro d h
    rw [found] at h
    obtain ⟨items, hitems, h⟩ := bind_ok h
    obtain ⟨home, -, h⟩ := bind_ok h
    obtain ⟨fence, -, h⟩ := bind_ok h
    obtain rfl := Except.ok.inj h
    exact planItemsFrom_eq_ok hitems
  constructor
  case items => exact matched
  case read =>
    intro home fence read hhome hfence
    obtain ⟨items, hitems⟩ := (reads_planItemsFrom leaves).mpr read
    exact ⟨items, by rw [found, hitems, hhome, hfence]; rfl⟩
  case refused =>
    rintro before leaf after reason rfl read refused
    rw [found, planItemsFrom_refused read refused, Nat.add_comm]
    rfl
  case cited =>
    intro σ c handle limits store d verdict h hheld hverdict diagnostic hdiagnostic
    obtain ⟨f, rfl, about⟩ := Checker.verdict_cites hheld hverdict diagnostic hdiagnostic
    refine ⟨f, rfl, fun n hn => ?_⟩
    obtain ⟨index, item, rfl, hitem, suits⟩ := about n hn
    obtain ⟨leaf, hleaf, read⟩ := getElem?_of_forall₂ (matched d h) hitem
    exact ⟨index, leaf, item, rfl, hleaf, read, suits⟩

/-- Flattening lists the leaves of a tree in order, or refuses the first node that is out of order. Only a tree with a
number of too many digits, which no JSON text gives, can have a node that cannot be shown in the refusal. -/
structure ListsLeaves (v : Value) : Prop where
  sound : (∃ leaves, flatten v = .ok leaves) ↔ ∀ node ∈ (Node.list v).preorder, node.Sound
  leaves : ∀ leaves, flatten v = .ok leaves → leaves = (Node.list v).preorder.filterMap Node.leaf?
  refused : ∀ fault, flatten v = .error fault → ∃ before node after reason,
    (Node.list v).preorder = before ++ node :: after ∧ (∀ other ∈ before, other.Sound) ∧ node.Offends reason ∧
      (fault = .invalid reason ∨ v.holdsLong = true ∧ fault = .unwritable)
  joined : ∀ values values', v = .list (values ++ values') → flatten v =
    flatten (.list values) >>= fun leaves => flatten (.list values') >>= fun more => pure (leaves ++ more)
  again : ∀ leaves, flatten v = .ok leaves → flatten (.list leaves) = .ok leaves
  plan : ∀ entries mission : Entries, entries.get? "mission" = some (.mapping mission) →
    mission.getD "items" (.list []) = v →
      (∀ fault, flatten v = .error fault → ofPlan (.mapping entries) = .error fault) ∧
        ∀ leaves, flatten v = .ok leaves → ReadsLeaves entries mission leaves

theorem long_of_unwritable {fault : Fault} (given : flatten v = .error fault) (unwritable : fault = .unwritable) :
    v.holdsLong = true ∧ fault = .unwritable := by
  refine ⟨Bool.of_not_eq_false fun short => ?_, unwritable⟩
  have kept : Keeps [.invalid] (flatten v) := confined_flatten (fun _ => id) fun long => nomatch short.symm.trans long
  subst unwritable
  rcases kept _ given with invalid | stray
  · cases invalid
  · cases stray

theorem flatten_listsLeaves (v : Value) (h : ∀ node ∈ (Node.list v).preorder, ¬ node.IsStray) : ListsLeaves v := by
  have walked := Node.outcome_cases h
  rw [← flatten_eq] at walked
  constructor
  case sound =>
    rcases walked with ⟨sound, flat⟩ | ⟨before, node, after, reason, _, split, -, offends, -, broken⟩
    · exact iff_of_true ⟨_, flat⟩ sound
    · refine iff_of_false (by simp [broken]) fun sound => offends.not_sound (sound node ?_)
      simp [split]
  case leaves =>
    intro leaves given
    rcases walked with ⟨-, flat⟩ | ⟨_, _, _, _, _, -, -, -, -, broken⟩
    · exact Except.ok.inj (given.symm.trans flat)
    · cases given.symm.trans broken
  case refused =>
    intro fault given
    rcases walked with ⟨-, flat⟩ | ⟨before, node, after, reason, _, split, sound, offends, refusal, broken⟩
    · cases given.symm.trans flat
    · obtain rfl := Except.error.inj (given.symm.trans broken)
      exact ⟨before, node, after, reason, split, sound, offends, refusal.imp_right (long_of_unwritable given)⟩
  case joined =>
    rintro values values' rfl
    exact flatten_append values values'
  case again => exact fun leaves => flatten_flatten
  case plan =>
    rintro entries mission given rfl
    refine ⟨fun fault broken => ?_, fun leaves => readsLeaves given⟩
    rw [ofPlan_eq given, broken]
    rfl

theorem flatten_listsLeaves_nested :
    let simple (code : Int) : Value := .mapping [("type", .text "SimpleItem"), ("command", .whole code)]
    let inner : Value := .mapping [("type", .text "ComplexItem"), ("Items", .list [simple 17])]
    let outer : Value := .mapping [("type", .text "ComplexItem"),
      ("TransectStyleComplexItem", .mapping [("Items", .list [simple 16, inner])])]
    let untyped : Value := .mapping [("command", .whole 21)]
    let v : Value := .list [simple 22, outer, untyped]
    (∀ node ∈ (Node.list v).preorder, ¬ node.IsStray) ∧
      flatten v = .ok [simple 22, simple 16, simple 17, untyped] ∧ ListsLeaves v := by
  intro simple inner outer untyped v
  have tree : (Node.list v).preorder = [.list v, .entry (simple 22), .entry outer, .list (.list [simple 16, inner]),
      .entry (simple 16), .entry inner, .list (.list [simple 17]), .entry (simple 17), .entry untyped] := by
    simp [Node.preorder_eq, Node.children, generated?, entryType, Entries.get?, Value.isText, simple, inner, outer,
      untyped, v]
  have kept : ∀ node ∈ (Node.list v).preorder, ¬ node.IsStray := by
    rw [tree]
    simp [Node.IsStray, Entries.get?, simple, inner, outer, untyped, v]
  refine ⟨kept, ?_, flatten_listsLeaves v kept⟩
  rw [flatten_eq, tree]
  rfl

end Preflight.Document
