import Preflight.Document.Plan
import Preflight.Proofs.Escapes

namespace Preflight

open Fault

inductive Slot where
  | real (given : Option Value)
  | whole (given : Option Value)

namespace Slot

def IsRead : Slot → Prop
  | real given => ∃ v x, given = some v ∧ v.toReal = .ok x
  | whole given => ∃ v n, given = some v ∧ v.toWhole = .ok n

def Confounds : Slot → Prop
  | real given => ∃ n, given = some (.whole n) ∧ Double.isFinite (Double.ofInt n) = false
  | whole given => ∃ x, given = some (.real x) ∧ Double.isInfinite x = true

abbrev FirstConfounds (slots : List Slot) : Prop := Foremost IsRead Confounds slots

theorem isRead_real (v : Value) : IsRead (.real (some v)) ↔ Reads? Value.toReal v := by
  simp [IsRead, Reads?]

end Slot

namespace Value

variable {v : Value} {entries : Entries} {key : String}

theorem holdsLong_of_mem {items : List Value} (h : v ∈ items) (long : v.holdsLong = true) :
    (list items).holdsLong = true := by
  rw [holdsLong_list]
  exact List.any_eq_true.mpr ⟨v, h, long⟩

theorem holdsLong_of_get? (found : entries.get? key = some v) (long : v.holdsLong = true) :
    (mapping entries).holdsLong = true := by
  obtain ⟨e, he, rfl⟩ := Option.map_eq_some_iff.mp found
  rw [holdsLong_mapping]
  exact List.any_eq_true.mpr ⟨e, List.mem_of_find?_eq_some he, long⟩

theorem holdsLong_of_getD {default : Value} (short : default.holdsLong = false)
    (long : ((entries.get? key).getD default).holdsLong = true) : (mapping entries).holdsLong = true := by
  cases found : entries.get? key with
  | none =>
    rw [found, Option.getD_none, short] at long
    cases long
  | some v =>
    rw [found] at long
    exact holdsLong_of_get? found long

theorem holdsLong_of_elements? {values : List Value} (listed : v.elements? = some values)
    (long : (list values).holdsLong = true) : v.holdsLong = true := by
  have plain (s : String) : (text s).holdsLong = false := rfl
  cases v with
  | list items | row items | set items =>
    obtain rfl := Option.some.inj listed
    exact long
  | text s =>
    obtain rfl := Option.some.inj listed
    simp [holdsLong_list, plain] at long
  | mapping entries =>
    obtain rfl := Option.some.inj listed
    simp [holdsLong_list, plain] at long
  | table rows =>
    obtain rfl := Option.some.inj listed
    change anyLong _ = true at long
    change anyLongRow rows = true
    induction rows with
    | nil => exact long
    | cons row rest ih =>
      rw [List.map_cons, anyLong, Bool.or_eq_true] at long
      rw [anyLongRow, Bool.or_eq_true, Bool.or_eq_true]
      rcases long with key | later
      · exact .inl (.inl key)
      · exact .inr (ih rfl later)
  | _ => cases listed

theorem short_of {w : Value} (within : v.holdsLong = true → w.holdsLong = true) (short : w.holdsLong = false) :
    v.holdsLong = false := Bool.eq_false_iff.mpr fun long => nomatch short.symm.trans (within long)

theorem strays_toReal (v : Value) : EndsIn isStray v.toReal ↔ Slot.Confounds (.real (some v)) := by
  cases v with
  | whole n =>
    change EndsIn isStray (realOfWhole n) ↔ _
    unfold realOfWhole
    cases h : Double.isFinite (Double.ofInt n) <;> simp [Slot.Confounds, h, isStray]
  | text s =>
    refine iff_of_false ?_ (by simp [Slot.Confounds])
    unfold toReal
    dsimp only
    split <;> simp [isStray]
  | octets bytes =>
    refine iff_of_false ?_ (by simp [Slot.Confounds])
    unfold toReal
    dsimp only
    split <;> simp [isStray]
  | _ => simp [toReal, Slot.Confounds, isStray]

theorem strays_toWhole (v : Value) : EndsIn isStray v.toWhole ↔ Slot.Confounds (.whole (some v)) := by
  have written (s shown : String) : ¬ EndsIn isStray (wholeOfText 10 s shown) := by
    unfold wholeOfText
    split <;> simp [isStray]
  cases v with
  | real x =>
    change EndsIn isStray (wholeOfReal (Double.truncate x)) ↔ _
    unfold Double.truncate
    cases h : Double.decode x <;> simp [wholeOfReal, Slot.Confounds, Double.isInfinite, h, isStray]
  | text s => exact iff_of_false (written s _) (by simp [Slot.Confounds])
  | octets bytes => exact iff_of_false (written _ _) (by simp [Slot.Confounds])
  | _ => simp [toWhole, Slot.Confounds, isStray]

theorem confined_toReal (v : Value) : Confined (·.isOverflow = true) [.kind, .value] v.toReal := by
  cases v with
  | whole n =>
    change Confined _ _ (realOfWhole n)
    unfold realOfWhole
    dsimp only
    split
    · exact confined_ok _
    · exact confined_error (.inr rfl)
  | text s =>
    unfold toReal
    dsimp only
    split
    · exact confined_ok _
    · exact confined_error (.inl rfl)
  | octets bytes =>
    unfold toReal
    dsimp only
    split
    · exact confined_ok _
    · exact confined_error (.inl rfl)
  | real x => exact confined_ok x
  | boolean b => exact confined_ok _
  | _ => exact confined_error (.inl rfl)

theorem confined_toWhole (v : Value) : Confined (·.isOverflow = true) [.kind, .value] v.toWhole := by
  have written (s shown : String) : Confined (·.isOverflow = true) [.kind, .value] (wholeOfText 10 s shown) := by
    unfold wholeOfText
    split
    · exact confined_ok _
    · exact confined_error (.inl rfl)
    · exact confined_error (.inl rfl)
  cases v with
  | real x =>
    change Confined _ _ (wholeOfReal (Double.truncate x))
    cases Double.truncate x with
    | value n => exact confined_ok n
    | infinite => exact confined_error (.inr rfl)
    | undefined => exact confined_error (.inl rfl)
  | text s => exact written _ _
  | octets bytes => exact written _ _
  | whole n => exact confined_ok n
  | boolean b => exact confined_ok _
  | _ => exact confined_error (.inl rfl)

theorem keeps_toReal (v : Value) : Keeps [.kind, .value] v.toReal :=
  (confined_toReal v).imp fun _ => isStray_of_isOverflow

theorem keeps_toWhole (v : Value) : Keeps [.kind, .value] v.toWhole :=
  (confined_toWhole v).imp fun _ => isStray_of_isOverflow

end Value

end Preflight
