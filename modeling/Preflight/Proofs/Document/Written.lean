import Preflight.Item.Document
import Preflight.Proofs.Reads

namespace Preflight.Item

open Fault

theorem ofList_toList (params : Params) : Params.ofList params.toList = params := by
  ext i hi
  simp [Params.ofList]

theorem mapM_real (xs : List Float) : (xs.map Value.real).mapM Value.toReal = .ok xs := by
  induction xs with
  | nil => rfl
  | cons x rest ih =>
    rw [List.map_cons, List.mapM_cons, ih]
    rfl

theorem readFields_toValue (item : Item) : readFields item.toValue item.relative item.params = .ok item := rfl

theorem ofValue_toValue (item : Item) : ofValue item.toValue = .ok item := by
  have params : readParams item.toValue = .ok item.params.toList := mapM_real _
  have few : ¬ paramCount < item.params.toList.length := by simp
  unfold ofValue
  rw [params]
  change (if paramCount < item.params.toList.length then throw _ >>= _ else
    refusing [.kind, .value] id (readFields item.toValue item.relative (Params.ofList item.params.toList))) = _
  rw [if_neg few, ofList_toList, readFields_toValue]
  rfl

theorem readFrom_written (position : Nat) (items : List Item) : readFrom position (items.map toValue) = .ok items := by
  induction items generalizing position with
  | nil => rfl
  | cons item rest ih =>
    have first : atPosition position (ofValue item.toValue) = .ok item := by
      rw [ofValue_toValue]
      rfl
    rw [List.map_cons]
    change (atPosition position (ofValue item.toValue) >>= fun item =>
      readFrom (position + 1) (rest.map toValue) >>= fun items => pure (item :: items)) = _
    rw [first, ih]
    rfl

theorem listOfValue_written (items : List Item) :
    (do listOfValue (← (listToValue items).getD "items" (.list []))) = .ok items := readFrom_written 1 items

end Preflight.Item
