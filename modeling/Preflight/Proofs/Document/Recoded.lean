import Preflight.Proofs.Document.Refusals
import Preflight.Proofs.Document.Written

/-!
Documents written again. Items are read leniently: numbers may be given as texts, fields and parameters may be missing,
and a plan hides radii and places among its parameters. Whatever is read is written strictly, and nothing of it is
lost: the items of a document come back from what they are written as, and writing them again changes nothing.
-/
namespace Preflight

open Fault

variable {v : Value} {item : Item}

theorem Params.toList_ofList {given : List Float} (few : given.length ≤ paramCount) :
    (Params.ofList given).toList = given ++ List.replicate (paramCount - given.length) 0.0 := by
  apply List.ext_getElem
  · simp only [Vector.length_toList, List.length_append, List.length_replicate]
    omega
  · intro i hi _
    simp only [Params.ofList, Vector.getElem_toList, Vector.getElem_ofFn, List.getElem_append, List.getElem_replicate]
    split
    next inside => simp [inside]
    next outside => simp [Nat.le_of_not_lt outside]

namespace Item

/-- The parameters are the given numbers, none cut off, with zeros for those that are missing, and the item is read from
what it is written as. -/
structure Survives (item : Item) (given : List Float) : Prop where
  params : item.params.toList = given ++ List.replicate (paramCount - given.length) 0.0
  seven : item.params.toList.length = 7
  back : ofValue item.toValue = .ok item

theorem survives_of_params {given : List Float} (few : given.length ≤ paramCount)
    (h : item.params = Params.ofList given) : item.Survives given where
  params := by rw [h, Params.toList_ofList few]
  seven := Vector.length_toList
  back := ofValue_toValue item

theorem params_of_readFields {relative : Bool} {params : Params} (h : readFields v relative params = .ok item) :
    item.params = params := by
  unfold readFields at h
  iterate 7 obtain ⟨_, -, h⟩ := bind_ok h
  obtain rfl := Except.ok.inj h
  rfl

theorem survives_of_ofValue (h : ofValue v = .ok item) :
    ∃ given, readParams v = .ok given ∧ given.length ≤ paramCount ∧ item.Survives given := by
  unfold ofValue at h
  obtain ⟨listed, -, h⟩ := bind_ok h
  cases listed with
  | false => cases h
  | true =>
    obtain ⟨given, read, h⟩ := bind_ok h
    by_cases many : paramCount < given.length
    · rw [if_pos many] at h
      cases h
    · have few : given.length ≤ paramCount := Nat.le_of_not_lt many
      rw [if_neg many] at h
      obtain ⟨flag, -, h⟩ := bind_ok h
      cases flag with
      | boolean relative =>
        have fields := refusing_eq_ok.mp h
        exact ⟨given, refusingWith_eq_ok.mp read, few, survives_of_params few (params_of_readFields fields)⟩
      | _ => cases h

end Item

namespace Document

theorem survives_of_planItem (h : planItem v = .ok item) :
    ∃ numbers, readPlanNumbers v = .ok numbers ∧ numbers.params.length = paramCount ∧ item = numbers.item ∧
      item.Survives numbers.params := by
  unfold planItem at h
  obtain ⟨numbers, read, h⟩ := bind_ok h
  by_cases count : numbers.params.length ≠ paramCount
  · rw [if_pos count] at h
    cases h
  · rw [if_neg count] at h
    obtain rfl := Except.ok.inj h
    have all : numbers.params.length = paramCount := Decidable.not_not.mp count
    exact ⟨numbers, refusing_eq_ok.mp read, all, rfl, Item.survives_of_params (Nat.le_of_eq all) rfl⟩

theorem ofValue_listToValue (items : List Item) : ofValue (Item.listToValue items) = .ok { items } := by
  change ofPlain (Item.listToValue items) = _
  have written : Item.listOfValue (.list (items.map Item.toValue)) = .ok items := Item.readFrom_written 1 items
  change (Item.listOfValue (.list (items.map Item.toValue)) >>= fun items => _) = _
  rw [written]
  rfl

def recoded (d : Document) : Except Fault Document := ofValue (Item.listToValue d.items)

end Document

theorem items_survive_writing (v : Value) :
    (∀ item, Item.ofValue v = .ok item →
      ∃ given, Item.readParams v = .ok given ∧ given.length ≤ 7 ∧ item.Survives given) ∧
    (∀ item, Document.planItem v = .ok item →
      ∃ numbers, Document.readPlanNumbers v = .ok numbers ∧ numbers.params.length = 7 ∧ item = numbers.item ∧
        item.Survives numbers.params) ∧
    ∀ d, Document.ofValue v = .ok d →
      ∃ d', d.recoded = .ok d' ∧ d'.items = d.items ∧ d'.recoded = .ok d' := by
  refine ⟨fun item => Item.survives_of_ofValue, fun item => Document.survives_of_planItem, fun d _ => ?_⟩
  exact ⟨{ items := d.items }, Document.ofValue_listToValue d.items, rfl, Document.ofValue_listToValue d.items⟩

theorem items_survive_writing_lenient :
    let loose : Value :=
      .mapping [("command", .text "16"), ("lat", .real Double.nan), ("params", .list [.text " 1_0 "])]
    let simple : Value := .mapping [("command", .real 16.9), ("params", .list (.replicate 7 .null))]
    let plan : Value := .mapping [("fileType", .text "Plan"), ("mission", .mapping [("items", .list [simple, simple])])]
    (∃ item, Item.ofValue loose = .ok item ∧ Item.ofValue item.toValue = .ok item) ∧
      (∃ item, Document.planItem simple = .ok item ∧ Item.ofValue item.toValue = .ok item) ∧
      ∃ d d', Document.ofValue plan = .ok d ∧ d.items.length = 2 ∧ d.recoded = .ok d' ∧ d'.items = d.items := by
  intro loose simple plan
  have isRead {α : Type} {x : Except Fault α} (h : x.toOption.isSome = true) : ∃ a, x = .ok a := by
    cases x with
    | ok a => exact ⟨a, rfl⟩
    | error fault => cases h
  obtain ⟨item, read⟩ := isRead (x := Item.ofValue loose) (by decide +kernel)
  obtain ⟨item', read'⟩ := isRead (x := Document.planItem simple) (by decide +kernel)
  have flat : Document.flatten (.list [simple, simple]) = .ok [simple, simple] := by
    have leaf : Document.flattenEntry simple = .ok [simple] := by
      rw [Document.flattenEntry]
      rfl
    rw [Document.flatten, Document.flattenEntries_cons, Document.flattenEntries_cons, leaf, Document.flattenEntries]
    rfl
  have items : Document.planItemsFrom 1 [simple, simple] = .ok [item', item'] := by
    have each (position : Nat) : Item.atPosition position (Document.planItem simple) = .ok item' := by
      rw [read']
      rfl
    simp only [Document.planItemsFrom, each]
    rfl
  have listed : Document.ofValue plan = .ok { items := [item', item'] } := by
    change (Document.flatten (.list [simple, simple]) >>= fun leaves => Document.planItemsFrom 1 leaves >>= _) = _
    rw [flat, ok_bind, items]
    rfl
  obtain ⟨given, -, -, survives⟩ := (items_survive_writing loose).1 item read
  obtain ⟨numbers, -, -, -, survives'⟩ := (items_survive_writing simple).2.1 item' read'
  obtain ⟨d', back, same, -⟩ := (items_survive_writing plan).2.2 _ listed
  exact ⟨⟨item, read, survives.back⟩, ⟨item', read', survives'.back⟩, _, d', listed, rfl, back, same⟩

end Preflight
