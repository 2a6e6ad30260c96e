import Preflight.Proofs.Document.Plan

/-!
Plans as trees. The list of items of a plan and the lists that its complex items stand for make a tree, and flattening
walks it depth first: it comes to the simple items in the order of the walk, or to the first node that is out of order.
-/
namespace Preflight.Document

open Fault

variable {fields : Entries} {v : Value}

/-- A node of a plan: what stands where a list of items belongs, or an entry of such a list. -/
inductive Node where
  | list (v : Value)
  | entry (v : Value)

def generated? (fields : Entries) : Option Value :=
  match fields.get? "TransectStyleComplexItem" with
  | some (.mapping transect) => (Entries.get? transect "Items").or (fields.get? "Items")
  | _ => fields.get? "Items"

theorem sizeOf_generated? (h : generated? fields = some v) : sizeOf v < sizeOf fields := by
  unfold generated? at h
  split at h
  next transect given =>
    have outer := sizeOf_get? given
    simp only [Value.mapping.sizeOf_spec] at outer
    rcases Option.or_eq_some_iff.mp h with inner | ⟨-, own⟩
    · have smaller := sizeOf_get? inner
      omega
    · exact sizeOf_get? own
  next => exact sizeOf_get? h

def IsSimple (fields : Entries) : Prop :=
  fields.get? "type" = none ∨ fields.get? "type" = some (.text "SimpleItem")

theorem isText_iff {s : String} : v.isText s = true ↔ v = .text s := by
  cases v with
  | text t => simp [Value.isText, eq_comm (a := s)]
  | _ => simp [Value.isText]

theorem isSimple_iff : (entryType fields).isText "SimpleItem" = true ↔ IsSimple fields := by
  rw [isText_iff, entryType, IsSimple]
  cases fields.get? "type" <;> simp

theorem isComplex_iff : IsComplex fields ↔ fields.get? "type" = some (.text "ComplexItem") := by
  rw [IsComplex, isText_iff, entryType]
  cases fields.get? "type" <;> simp

def complexType (fields : Entries) : Value := (fields.get? "complexItemType").getD (.text "?")

namespace Node

def value : Node → Value
  | list v => v
  | entry v => v

def children : Node → List Node
  | list (.list entries) => entries.map entry
  | entry (.mapping fields) =>
    if (entryType fields).isText "ComplexItem" then
      match generated? fields with
      | none | some .null => []
      | some v => [list v]
    else []
  | _ => []

theorem sizeOf_child {node child : Node} (h : child ∈ node.children) : sizeOf child.value < sizeOf node.value := by
  unfold children at h
  split at h
  next entries =>
    obtain ⟨v, hv, rfl⟩ := List.mem_map.mp h
    have smaller := List.sizeOf_lt_of_mem hv
    simp only [value, Value.list.sizeOf_spec]
    omega
  next fields =>
    split at h
    · split at h
      · cases h
      · cases h
      next v _ given =>
        obtain rfl := List.mem_singleton.mp h
        have smaller := sizeOf_generated? given
        simp only [value, Value.mapping.sizeOf_spec]
        omega
    · cases h
  next => cases h

def preorder (node : Node) : List Node :=
  node :: node.children.attach.flatMap fun child => preorder child.1
termination_by sizeOf node.value
decreasing_by exact sizeOf_child child.2

theorem preorder_eq (node : Node) : node.preorder = node :: node.children.flatMap preorder := by
  rw [preorder, List.flatMap_subtype (g := preorder) fun _ _ => rfl, List.unattach_attach]

theorem preorder_list (entries : List Value) :
    (list (.list entries)).preorder = list (.list entries) :: entries.flatMap fun v => (entry v).preorder := by
  rw [preorder_eq, children, List.flatMap_map]

def leaf? : Node → Option Value
  | entry (.mapping fields) => if (entryType fields).isText "SimpleItem" then some (.mapping fields) else none
  | _ => none

inductive Sound : Node → Prop
  | list (entries : List Value) : Sound (list (.list entries))
  | simple {fields : Entries} (simple : IsSimple fields) : Sound (entry (.mapping fields))
  | complex {fields : Entries} {v : Value} (complex : IsComplex fields) (generated : generated? fields = some v)
    (given : v ≠ .null) : Sound (entry (.mapping fields))

inductive Offends : Node → String → Prop
  | unlisted {v : Value} (other : ∀ entries, v ≠ .list entries) : Offends (list v) "plan items must be a list"
  | unkeyed {v : Value} (other : ∀ fields, v ≠ .mapping fields) :
    Offends (entry v) s!"plan item must be an object, got {v.literal}"
  | untyped {fields : Entries} {type : Value} (given : fields.get? "type" = some type)
    (simple : type ≠ .text "SimpleItem") (complex : type ≠ .text "ComplexItem") :
    Offends (entry (.mapping fields)) s!"unknown plan item type '{type.display}'"
  | childless {fields : Entries} (complex : IsComplex fields)
    (ungenerated : ∀ v, generated? fields = some v → v = .null) :
    Offends (entry (.mapping fields))
      s!"complex item '{(complexType fields).display}' has no generated items"

def IsStray : Node → Prop
  | entry (.mapping fields) => IsComplex fields ∧
    ∃ transect, Entries.get? fields "TransectStyleComplexItem" = some transect ∧ ∀ inner, transect ≠ .mapping inner
  | _ => False

end Node

namespace Node

def fault? : Node → Option Fault
  | list (.list _) => none
  | list _ => some (.invalid "plan items must be a list")
  | entry (.mapping fields) =>
    if (entryType fields).isText "SimpleItem" then none
    else if (entryType fields).isText "ComplexItem" then
      match nested? fields with
      | .error fault => some fault
      | .ok none | .ok (some .null) =>
        some (refusal (s!"complex item '{·}' has no generated items") ((complexType fields).shown Value.display))
      | .ok (some _) => none
    else some (refusal (s!"unknown plan item type '{·}'") ((entryType fields).shown Value.display))
  | entry v => some (refusal (s!"plan item must be an object, got {·}") (v.shown Value.literal))

def outcome (nodes : List Node) : Except Fault (List Value) :=
  match nodes.findSome? fault? with
  | some fault => .error fault
  | none => .ok (nodes.filterMap leaf?)

theorem outcome_cons_fault {node : Node} {fault : Fault} (h : node.fault? = some fault) (rest : List Node) :
    outcome (node :: rest) = .error fault := by
  rw [outcome, List.findSome?_cons, h]

theorem outcome_cons_silent {node : Node} (sound : node.fault? = none) (inner : node.leaf? = none) (rest : List Node) :
    outcome (node :: rest) = outcome rest := by
  rw [outcome, List.findSome?_cons, List.filterMap_cons, sound, inner]
  rfl

theorem outcome_append (nodes nodes' : List Node) : outcome (nodes ++ nodes') =
    outcome nodes >>= fun leaves => outcome nodes' >>= fun more => pure (leaves ++ more) := by
  unfold outcome
  rw [List.findSome?_append, List.filterMap_append]
  cases nodes.findSome? fault? with
  | some fault => rfl
  | none => cases nodes'.findSome? fault? <;> rfl

end Node

theorem nested?_cases (fields : Entries) : nested? fields = .ok (generated? fields) ∨
    ∃ transect fault, fields.get? "TransectStyleComplexItem" = some transect ∧ (∀ inner, transect ≠ .mapping inner) ∧
      nested? fields = .error fault := by
  unfold nested? generated?
  cases fields.get? "TransectStyleComplexItem" with
  | none => exact .inl rfl
  | some transect =>
    cases transect with
    | mapping inner =>
      dsimp only [Value.get?]
      cases Entries.get? inner "Items" <;> exact .inl rfl
    | _ => exact .inr ⟨_, _, rfl, nofun, rfl⟩

theorem generated?_of_nested? {given : Option Value} (h : nested? fields = .ok given) : generated? fields = given := by
  rcases nested?_cases fields with found | ⟨_, _, -, -, found⟩
  · exact Except.ok.inj (found.symm.trans h)
  · cases found.symm.trans h

open Document.Node (outcome)

theorem flattenEntry_eq
    (inner : ∀ inner, nested? fields = .ok (some inner) → flatten inner = outcome (Node.list inner).preorder) :
    flattenEntry (.mapping fields) = outcome (Node.entry (.mapping fields)).preorder := by
  rw [flattenEntry, Node.preorder_eq]
  split
  next simple =>
    have alone : (Node.entry (.mapping fields)).children = [] := by
      have plain : (entryType fields).isText "ComplexItem" = false := by
        rw [isText_iff.mp simple]
        rfl
      simp [Node.children, plain]
    rw [alone]
    simp [outcome, Node.fault?, Node.leaf?, simple]
  next other =>
    split
    next complex =>
      split
      next fault found =>
        exact (Node.outcome_cons_fault (by simp [Node.fault?, other, complex, found]) _).symm
      next found =>
        exact (Node.outcome_cons_fault (by simp [Node.fault?, other, complex, found, complexType]) _).symm
      next found =>
        exact (Node.outcome_cons_fault (by simp [Node.fault?, other, complex, found, complexType]) _).symm
      next nested given found =>
        have below : (Node.entry (.mapping fields)).children = [.list nested] := by
          simp only [Node.children, complex, if_true, generated?_of_nested? found]
        rw [below, List.flatMap_singleton, inner nested found]
        refine (Node.outcome_cons_silent ?_ ?_ _).symm
        · simp [Node.fault?, other, complex, found]
        · simp [Node.leaf?, other]
    next unknown =>
      exact (Node.outcome_cons_fault (by simp [Node.fault?, other, unknown]) _).symm

theorem flattenEntries_eq {entries : List Value}
    (each : ∀ v ∈ entries, flattenEntry v = outcome (Node.entry v).preorder) :
    flattenEntries entries = outcome (entries.flatMap fun v => (Node.entry v).preorder) := by
  induction entries with
  | nil =>
    rw [flattenEntries]
    rfl
  | cons entry rest ih =>
    rw [List.forall_mem_cons] at each
    rw [flattenEntries_cons, each.1, ih each.2, List.flatMap_cons, Node.outcome_append]

theorem flatten_eq (v : Value) : flatten v = outcome (Node.list v).preorder := by
  induction v using flatten_induction with
  | list entries ih =>
    -- Only a mapping has anything below it; the induction hypothesis is about what its complex items stand for.
    have each : ∀ v ∈ entries, flattenEntry v = outcome (Node.entry v).preorder := by
      intro v hv
      cases v with
      | mapping fields => exact flattenEntry_eq fun inner found => ih fields inner hv found
      | _ =>
        unfold flattenEntry
        rw [Node.preorder_eq, Node.outcome_cons_fault rfl]
    rw [flatten, flattenEntries_eq each, Node.preorder_list]
    exact (Node.outcome_cons_silent rfl rfl _).symm
  | other v h =>
    have unlisted : (Node.list v).fault? = some (.invalid "plan items must be a list") := by
      cases v with
      | list entries => exact absurd rfl (h entries)
      | _ => rfl
    rw [flatten_other h, Node.preorder_eq, Node.outcome_cons_fault unlisted]
    rfl

/-- A refusal for a reason, or the fault that is left of it when a number in the reason has too many digits. -/
def IsRefusal (reason : String) (fault : Fault) : Prop := fault = .invalid reason ∨ fault = .unwritable

theorem isRefusal_refusal (reason : String → String) (v : Value) (style : Value → String) :
    IsRefusal (reason (style v)) (refusal reason (v.shown style)) := by
  unfold Value.shown
  cases v.holdsLong
  · exact .inl rfl
  · exact .inr rfl

namespace Node

theorem complex_sound_or_offends (complex : IsComplex fields) (found : nested? fields = .ok (generated? fields)) :
    (Sound (entry (.mapping fields)) ∧ fault? (entry (.mapping fields)) = none) ∨
      ∃ reason fault, Offends (entry (.mapping fields)) reason ∧ IsRefusal reason fault ∧
        fault? (entry (.mapping fields)) = some fault := by
  have other := not_simple_of_complex complex
  have isComplex : (entryType fields).isText "ComplexItem" = true := complex
  by_cases none : ∀ v, generated? fields = some v → v = .null
  · refine .inr ⟨_, _, .childless complex none, isRefusal_refusal (s!"complex item '{·}' has no generated items") _ _, ?_⟩
    cases generated : generated? fields with
    | none => simp [fault?, other, isComplex, found, generated]
    | some v =>
      obtain rfl := none v generated
      simp [fault?, other, isComplex, found, generated]
  · obtain ⟨v, generated, given⟩ : ∃ v, generated? fields = some v ∧ v ≠ .null := by simpa using none
    exact .inl ⟨.complex complex generated given, by simp [fault?, other, isComplex, found, generated]⟩

theorem sound_or_offends {node : Node} (h : ¬ node.IsStray) :
    (node.Sound ∧ node.fault? = none) ∨
      ∃ reason fault, node.Offends reason ∧ IsRefusal reason fault ∧ node.fault? = some fault := by
  rcases node with v | v
  · cases v with
    | list entries => exact .inl ⟨.list entries, rfl⟩
    | _ => exact .inr ⟨_, _, .unlisted nofun, .inl rfl, rfl⟩
  · cases v with
    | mapping fields =>
      by_cases complex : IsComplex fields
      · rcases nested?_cases fields with found | ⟨transect, _, given, odd, -⟩
        · exact complex_sound_or_offends complex found
        · exact absurd ⟨complex, transect, given, odd⟩ h
      · cases type : Entries.get? fields "type" with
        | none => exact .inl ⟨.simple (.inl type), by simp [fault?, isSimple_iff.mpr (.inl type)]⟩
        | some t =>
          by_cases simple : t = .text "SimpleItem"
          · have named : IsSimple fields := .inr (type.trans (congrArg some simple))
            exact .inl ⟨.simple named, by simp [fault?, isSimple_iff.mpr named]⟩
          · have shown : entryType fields = t := by rw [entryType, type, Option.getD_some]
            have unnamed : t.isText "SimpleItem" = false := Bool.eq_false_iff.mpr (mt isText_iff.mp simple)
            have unknown : t.isText "ComplexItem" = false := by simpa [IsComplex, shown] using complex
            have plain : t ≠ .text "ComplexItem" := by
              rintro rfl
              exact complex (isComplex_iff.mpr type)
            refine .inr ⟨_, _, .untyped type simple plain, isRefusal_refusal (s!"unknown plan item type '{·}'") _ _, ?_⟩
            simp [fault?, shown, unnamed, unknown]
    | _ => exact .inr ⟨_, _, .unkeyed nofun, isRefusal_refusal (s!"plan item must be an object, got {·}") _ _, rfl⟩

theorem Offends.not_sound {node : Node} {reason : String} (h : node.Offends reason) : ¬ node.Sound := by
  intro sound
  cases h with
  | unlisted other =>
    cases sound
    exact other _ rfl
  | unkeyed other =>
    cases sound
    · exact other _ rfl
    · exact other _ rfl
  | untyped given simple complex =>
    cases sound with
    | simple named =>
      rcases named with none | named
      · cases none.symm.trans given
      · exact simple (Option.some.inj (given.symm.trans named))
    | complex named => exact complex (Option.some.inj (given.symm.trans (isComplex_iff.mp named)))
  | childless complex none =>
    cases sound with
    | simple named =>
      have plain := not_simple_of_complex complex
      rw [isSimple_iff.mpr named] at plain
      cases plain
    | complex _ generated given => exact given (none _ generated)

theorem fault?_eq_none {node : Node} (h : ¬ node.IsStray) : node.fault? = none ↔ node.Sound := by
  rcases sound_or_offends h with ⟨sound, none⟩ | ⟨reason, fault, offends, -, found⟩
  · exact iff_of_true none sound
  · exact iff_of_false (by simp [found]) offends.not_sound

theorem outcome_cases {nodes : List Node} (h : ∀ node ∈ nodes, ¬ node.IsStray) :
    (∀ node ∈ nodes, node.Sound) ∧ outcome nodes = .ok (nodes.filterMap leaf?) ∨
      ∃ before node after reason fault, nodes = before ++ node :: after ∧ (∀ other ∈ before, other.Sound) ∧
        node.Offends reason ∧ IsRefusal reason fault ∧ outcome nodes = .error fault := by
  cases found : nodes.findSome? fault? with
  | none =>
    refine .inl ⟨fun node hnode => ?_, by rw [outcome, found]⟩
    exact (fault?_eq_none (h node hnode)).mp (List.findSome?_eq_none_iff.mp found node hnode)
  | some fault =>
    obtain ⟨before, node, after, rfl, first, clear⟩ := List.findSome?_eq_some_iff.mp found
    rcases sound_or_offends (h node (by simp)) with ⟨-, none⟩ | ⟨reason, _, offends, refusal, given⟩
    · cases none.symm.trans first
    · obtain rfl := Option.some.inj (first.symm.trans given)
      refine .inr ⟨before, node, after, reason, fault, rfl, fun other hother => ?_, offends, refusal,
        by rw [outcome, found]⟩
      exact (fault?_eq_none (h other (by simp [hother]))).mp (clear other hother)

end Node

end Preflight.Document
