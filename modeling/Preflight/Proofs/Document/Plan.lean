import Preflight.Proofs.Document.Items

namespace Preflight.Document

open Fault

variable {entries : Entries}

def planGiven : Value → Value
  | .null => .real 0.0
  | v => v

theorem planParam_eq (v : Value) : planParam v = (planGiven v).toReal := by cases v <;> rfl

def planSlots (values : List Value) : List Slot := values.map fun v => .real (some (planGiven v))

def frameSlot (entries : Entries) : Slot := .whole (some (entries.getD "frame" defaultFrame))

inductive PlanItemConfounds (entries : Entries) : Prop
  | command (first : Slot.Confounds (.whole (entries.get? "command")))
  | numbers (command : Slot.IsRead (.whole (entries.get? "command"))) (values : List Value)
    (given : (entries.getD "params" (.list [])).elements? = some values)
    (first : Slot.FirstConfounds (planSlots values ++ [frameSlot entries]))

theorem strays_planParams (values : List Value) :
    EndsIn isStray (values.mapM planParam) ↔ Slot.FirstConfounds (planSlots values) := by
  rw [endsIn_mapM, Slot.FirstConfounds, planSlots, foremost_map]
  apply foremost_congr
  · intro v
    simp only [Slot.isRead_real, Reads?, planParam_eq]
  · intro v
    rw [planParam_eq, Value.strays_toReal]

theorem reads_planParams (values : List Value) :
    Reads? (List.mapM planParam) values ↔ ∀ slot ∈ planSlots values, slot.IsRead := by
  rw [mapM_reads]
  simp [planSlots, Slot.isRead_real, Reads?, planParam_eq]

theorem strays_planRest (code : Int) :
    EndsIn isStray (do
      let params ← (← (← (Value.mapping entries).getD "params" (.list [])).elements).mapM planParam
      let frame ← (← (Value.mapping entries).getD "frame" defaultFrame).toWhole
      return PlanNumbers.mk code params frame) ↔
    ∃ values, (entries.getD "params" (.list [])).elements? = some values ∧
      Slot.FirstConfounds (planSlots values ++ [frameSlot entries]) := by
  change EndsIn isStray ((entries.getD "params" (.list [])).elements >>= fun values => values.mapM planParam >>= fun params =>
    (entries.getD "frame" defaultFrame).toWhole >>= fun frame => pure (PlanNumbers.mk code params frame)) ↔ _
  rw [strays_elements]
  have frame (params : List Float) : EndsIn isStray ((entries.getD "frame" defaultFrame).toWhole >>= fun frame =>
      pure (PlanNumbers.mk code params frame)) ↔ Slot.FirstConfounds [frameSlot entries] := by
    rw [Slot.FirstConfounds, foremost_cons]
    apply strays_whole
    intro n
    exact iff_of_false (not_endsIn_ok _) not_foremost_nil
  apply exists_congr
  intro values
  have split : Slot.FirstConfounds (planSlots values ++ [frameSlot entries]) ↔ _ := foremost_append
  rw [endsIn_bind, strays_planParams, split, ← reads_planParams]
  simp only [frame, Reads?]
  simp

theorem strays_readPlanNumbers : EndsIn isStray (readPlanNumbers (.mapping entries)) ↔ PlanItemConfounds entries := by
  have command : EndsIn isStray (readPlanNumbers (.mapping entries)) ↔ _ := strays_wholeField strays_planRest
  rw [command]
  constructor
  · rintro (first | ⟨read, values, given, first⟩)
    · exact .command first
    · exact .numbers read values given first
  · rintro (first | ⟨read, values, given, first⟩)
    · exact .inl first
    · exact .inr ⟨read, values, given, first⟩

theorem keeps_planParam (v : Value) : Keeps [.kind, .value] (planParam v) := by
  rw [planParam_eq]
  exact Value.keeps_toReal _

theorem keeps_readPlanNumbers (v : Value) : Keeps [.key, .kind, .value] (readPlanNumbers v) := by
  unfold readPlanNumbers
  apply keeps_bind ((keeps_field v "command").mono (by simp))
  intro given _
  apply keeps_bind ((Value.keeps_toWhole given).mono (by simp))
  intro code _
  apply keeps_bind (keeps_getD v "params" _)
  intro given _
  apply keeps_bind ((keeps_elements given).mono (by simp))
  intro values _
  apply keeps_bind ((keeps_mapM keeps_planParam values).mono (by simp))
  intro params _
  apply keeps_bind (keeps_getD v "frame" _)
  intro given _
  apply keeps_bind ((Value.keeps_toWhole given).mono (by simp))
  intro frame _
  exact keeps_ok _

theorem keeps_planItem (v : Value) : Keeps [.invalid] (planItem v) := by
  unfold planItem
  apply keeps_bind (keeps_refusing (keeps_readPlanNumbers v))
  intro numbers _
  exact keeps_unless (keeps_error (.inl rfl)) (keeps_ok _)

theorem strays_unless_refuse {α : Type} {p : Prop} [Decidable p] {reason : String} {next : PUnit → Except Fault α} :
    EndsIn isStray (if p then refuse reason >>= next else next ⟨⟩) ↔ ¬ p ∧ EndsIn isStray (next ⟨⟩) :=
  endsIn_unless (fun _ => rfl)

def PlanEntryConfounds (v : Value) : Prop := ∃ entries, v = .mapping entries ∧ PlanItemConfounds entries

theorem strays_planItem (v : Value) : EndsIn isStray (planItem v) ↔ PlanEntryConfounds v := by
  have numbers : EndsIn isStray (readPlanNumbers v) ↔ PlanEntryConfounds v := by
    cases v with
    | mapping entries => simpa [PlanEntryConfounds] using strays_readPlanNumbers
    | _ =>
      refine iff_of_false ?_ (by simp [PlanEntryConfounds])
      simp [readPlanNumbers, Value.field, endsIn_bind, isStray]
  unfold planItem
  rw [endsIn_bind, strays_refusing (by decide), numbers]
  simp only [strays_unless_refuse]
  simp [pure, Except.pure]

theorem planItemsFrom_eq (position : Nat) (values : List Value) :
    planItemsFrom position values = eachFrom (fun position v => Item.atPosition position (planItem v)) position values := by
  induction values generalizing position with
  | nil => rfl
  | cons v rest ih => rw [planItemsFrom, eachFrom, ih]

theorem unrefused_planItemsFrom (values : List Value) :
    EndsIn isUnrefused (planItemsFrom 1 values) ↔ Foremost (Reads? planItem) PlanEntryConfounds values := by
  rw [planItemsFrom_eq]
  apply endsIn_eachFrom
  · intro position v
    simp [Reads?, Item.atPosition]
  · intro position v
    rw [Item.unrefused_atPosition, unrefused_iff_strays (keeps_planItem v), strays_planItem]

theorem reads_planItemsFrom (values : List Value) :
    (∃ items, planItemsFrom 1 values = .ok items) ↔ ∀ v ∈ values, Reads? planItem v := by
  rw [planItemsFrom_eq]
  apply eachFrom_reads
  intro position v
  simp [Reads?, Item.atPosition]

theorem keeps_planItemsFrom (values : List Value) : Keeps [.invalid] (planItemsFrom 1 values) := by
  rw [planItemsFrom_eq]
  exact keeps_eachFrom (fun position v _ => Item.keeps_atPosition position (keeps_planItem v)) 1

def IsComplex (fields : Entries) : Prop := (entryType fields).isText "ComplexItem" = true

inductive Shows : Value → Value → Prop
  | unkeyed {v : Value} (other : ∀ fields, v ≠ .mapping fields) : Shows v v
  | untyped {fields : Entries} (simple : (entryType fields).isText "SimpleItem" = false) (complex : ¬ IsComplex fields) :
    Shows (.mapping fields) (entryType fields)
  | childless {fields : Entries} (complex : IsComplex fields)
    (none : nested? fields = .ok none ∨ nested? fields = .ok (some .null)) :
    Shows (.mapping fields) ((fields.get? "complexItemType").getD (.text "?"))

mutual

inductive Stranded : Value → Prop
  | entry {before after : List Value} {entry : Value} (read : ∀ other ∈ before, Reads? flattenEntry other)
    (stranded : EntryStranded entry) : Stranded (.list (before ++ entry :: after))

/-- A complex item whose transect is no mapping, one that stands for what flattening strands in, and an entry whose
refusal would show a number with too many digits. -/
inductive EntryStranded : Value → Prop
  | transect {fields : Entries} {transect : Value} (complex : IsComplex fields)
    (given : fields.get? "TransectStyleComplexItem" = some transect) (odd : ∀ inner, transect ≠ .mapping inner) :
    EntryStranded (.mapping fields)
  | nested {fields : Entries} {inner : Value} (complex : IsComplex fields)
    (given : nested? fields = .ok (some inner)) (stranded : Stranded inner) : EntryStranded (.mapping fields)
  | wordless {entry v : Value} (shows : Shows entry v) (long : v.holdsLong = true) : EntryStranded entry

end

theorem stranded_iff (v : Value) :
    Stranded v ↔ ∃ values, v = .list values ∧ Foremost (Reads? flattenEntry) EntryStranded values := by
  constructor
  · rintro ⟨read, stranded⟩
    exact ⟨_, rfl, _, _, _, rfl, read, stranded⟩
  · rintro ⟨_, rfl, before, entry, after, rfl, read, stranded⟩
    exact .entry read stranded

theorem strays_nested? (fields : Entries) : EndsIn isStray (nested? fields) ↔
    ∃ transect, fields.get? "TransectStyleComplexItem" = some transect ∧ ∀ inner, transect ≠ .mapping inner := by
  unfold nested?
  cases fields.get? "TransectStyleComplexItem" with
  | none => simp [pure, Except.pure]
  | some transect =>
    cases transect with
    | mapping inner =>
      refine iff_of_false ?_ (by simp)
      dsimp only
      rw [Value.get?]
      cases Entries.get? inner "Items" <;> exact not_endsIn_ok _
    | _ => simp [Value.get?, endsIn_bind, isStray]

theorem keeps_nested? (fields : Entries) : Keeps [.invalid] (nested? fields) := by
  unfold nested?
  split
  · exact keeps_ok _
  · next transect _ =>
    apply keeps_bind
    · cases transect with
      | mapping inner => exact keeps_ok _
      | _ => exact keeps_error (.inr rfl)
    · intro inner _
      cases inner <;> exact keeps_ok _

theorem holdsLong_of_nested? {fields : Entries} {inner : Value} (found : nested? fields = .ok (some inner))
    (long : inner.holdsLong = true) : (Value.mapping fields).holdsLong = true := by
  unfold nested? at found
  split at found
  next => exact Value.holdsLong_of_get? (Except.ok.inj found) long
  next transect given =>
    cases transect with
    | mapping entries =>
      dsimp only [Value.get?] at found
      cases listed : Entries.get? entries "Items" with
      | none =>
        rw [listed] at found
        exact Value.holdsLong_of_get? (Except.ok.inj found) long
      | some items =>
        rw [listed] at found
        obtain rfl := Option.some.inj (Except.ok.inj found)
        exact Value.holdsLong_of_get? given (Value.holdsLong_of_get? listed long)
    | _ => cases found

theorem not_stranded_null : ¬ Stranded .null := by
  rw [stranded_iff]
  rintro ⟨_, ⟨⟩, -⟩

theorem not_simple_of_complex {fields : Entries} (h : IsComplex fields) :
    (entryType fields).isText "SimpleItem" = false := by
  unfold IsComplex at h
  cases hv : entryType fields with
  | text name =>
    have hname : "ComplexItem" = name := by simpa [hv, Value.isText] using h
    subst hname
    decide
  | _ => rfl

theorem complex_stranded_iff {fields : Entries} (complex : IsComplex fields) : EntryStranded (.mapping fields) ↔
    EndsIn isUnrefused (nested? fields) ∨ (∃ inner, nested? fields = .ok (some inner) ∧ Stranded inner) ∨
      (nested? fields = .ok none ∨ nested? fields = .ok (some .null)) ∧
        ((fields.get? "complexItemType").getD (.text "?")).holdsLong = true := by
  rw [unrefused_iff_strays (keeps_nested? fields), strays_nested?]
  constructor
  · rintro (⟨-, given, odd⟩ | ⟨-, given, stranded⟩ | ⟨shows, long⟩)
    · exact .inl ⟨_, given, odd⟩
    · exact .inr (.inl ⟨_, given, stranded⟩)
    · cases shows with
      | unkeyed other => exact absurd rfl (other fields)
      | untyped simple plain => exact absurd complex plain
      | childless _ none => exact .inr (.inr ⟨none, long⟩)
  · rintro (⟨_, given, odd⟩ | ⟨_, given, stranded⟩ | ⟨none, long⟩)
    · exact .transect complex given odd
    · exact .nested complex given stranded
    · exact .wordless (.childless complex none) long

theorem unrefused_flattenEntry {fields : Entries}
    (inner : ∀ inner, nested? fields = .ok (some inner) → (EndsIn isUnrefused (flatten inner) ↔ Stranded inner)) :
    EndsIn isUnrefused (flattenEntry (.mapping fields)) ↔ EntryStranded (.mapping fields) := by
  rw [flattenEntry]
  split
  next simple =>
    refine iff_of_false (not_endsIn_ok _) ?_
    have plain : ¬ IsComplex fields := fun complex =>
      absurd ((not_simple_of_complex complex).symm.trans simple) Bool.false_ne_true
    rintro (⟨complex, -⟩ | ⟨complex, -⟩ | ⟨shows, -⟩)
    · exact plain complex
    · exact plain complex
    · cases shows with
      | unkeyed other => exact other fields rfl
      | untyped other => cases other.symm.trans simple
      | childless complex => exact plain complex
  next simple =>
    split
    next complex =>
      rw [complex_stranded_iff complex]
      split
      next fault found => simp [found]
      next found => simp [found, withoutItems, unrefused_refusal]
      next found => simp [found, withoutItems, unrefused_refusal, not_stranded_null]
      next nested given found =>
        have given : nested ≠ .null := given
        simp [inner nested found, found, given]
    next plain =>
      rw [endsIn_error, unrefused_refusal]
      constructor
      · exact .wordless (.untyped (by simpa using simple) plain)
      · rintro (⟨complex, -⟩ | ⟨complex, -⟩ | ⟨shows, long⟩)
        · exact absurd complex plain
        · exact absurd complex plain
        · cases shows with
          | unkeyed other => exact absurd rfl (other fields)
          | untyped => exact long
          | childless complex => exact absurd complex plain

theorem flattenEntries_cons (entry : Value) (rest : List Value) : flattenEntries (entry :: rest) =
    flattenEntry entry >>= fun leaves => flattenEntries rest >>= fun more => pure (leaves ++ more) := by
  rw [flattenEntries]

theorem unrefused_flattenEntries (entries : List Value) : EndsIn isUnrefused (flattenEntries entries) ↔
    Foremost (Reads? flattenEntry) (fun entry => EndsIn isUnrefused (flattenEntry entry)) entries := by
  induction entries with
  | nil =>
    rw [flattenEntries]
    exact iff_of_false (not_endsIn_ok []) not_foremost_nil
  | cons entry rest ih =>
    have later (leaves : List Value) : EndsIn isUnrefused (flattenEntries rest >>= fun more => pure (leaves ++ more)) ↔ _ :=
      (endsIn_map (g := fun more => leaves ++ more)).trans ih
    rw [flattenEntries_cons, foremost_cons, endsIn_bind]
    simp only [later]
    simp [Reads?]

theorem flatten_induction {P : Value → Prop}
    (list : ∀ entries : List Value, (∀ fields inner, .mapping fields ∈ entries → nested? fields = .ok (some inner) →
      P inner) → P (.list entries))
    (other : ∀ v, (∀ entries, v ≠ .list entries) → P v) (v : Value) : P v := by
  -- On the size: what a complex item stands for is smaller than the list that it stands in.
  induction hsize : sizeOf v using Nat.strongRecOn generalizing v with
  | ind size ih =>
    cases v with
    | list entries =>
      apply list
      intro fields inner hentry found
      have smaller : sizeOf inner < size := by
        have h₁ := sizeOf_nested? found
        have h₂ := List.sizeOf_lt_of_mem hentry
        simp only [Value.mapping.sizeOf_spec] at h₂
        simp only [Value.list.sizeOf_spec] at hsize
        omega
      exact ih _ smaller inner rfl
    | _ => exact other _ nofun

theorem flatten_other {v : Value} (h : ∀ entries, v ≠ .list entries) : flatten v = refuse "plan items must be a list" := by
  unfold flatten
  split
  · exact absurd rfl (h _)
  · rfl

theorem unrefused_flatten (v : Value) : EndsIn isUnrefused (flatten v) ↔ Stranded v := by
  induction v using flatten_induction with
  | list entries ih =>
    have each : ∀ entry ∈ entries, EndsIn isUnrefused (flattenEntry entry) ↔ EntryStranded entry := by
      intro entry hentry
      cases entry with
      | mapping fields => exact unrefused_flattenEntry fun inner found => ih fields inner hentry found
      | _ =>
        unfold flattenEntry
        rw [endsIn_error, unrefused_refusal]
        refine ⟨.wordless (.unkeyed nofun), ?_⟩
        rintro (_ | _ | ⟨shows, long⟩)
        cases shows
        exact long
    have same : Foremost (Reads? flattenEntry) (fun entry => EndsIn isUnrefused (flattenEntry entry)) entries ↔
        Foremost (Reads? flattenEntry) EntryStranded entries := foremost_congr_of_mem each
    rw [flatten, unrefused_flattenEntries, stranded_iff]
    simp [same]
  | other v h =>
    rw [flatten_other h]
    refine iff_of_false (not_endsIn_invalid (fun _ => rfl) _) ?_
    rw [stranded_iff]
    rintro ⟨entries, rfl, -⟩
    exact h entries rfl

section

variable {passing : Fault → Prop} (stray : ∀ fault : Fault, fault.isStray = true → passing fault)

include stray

theorem confined_flattenEntry {fields : Entries} (long : (Value.mapping fields).holdsLong = true → passing .unwritable)
    (inner : ∀ inner, nested? fields = .ok (some inner) → Confined passing [.invalid] (flatten inner)) :
    Confined passing [.invalid] (flattenEntry (.mapping fields)) := by
  have nameless : Confined passing [.invalid] (withoutItems fields : Except Fault (List Value)) :=
    confined_refusal fun given => long (Value.holdsLong_of_getD rfl given)
  rw [flattenEntry]
  split
  · exact confined_ok _
  · split
    · split
      next fault found => exact confined_error ((keeps_nested? fields fault found).imp_right (stray fault))
      next => exact nameless
      next => exact nameless
      next nested _ found => exact inner nested found
    · exact confined_refusal fun given => long (Value.holdsLong_of_getD rfl given)

omit stray in
theorem confined_flattenEntries {entries : List Value}
    (each : ∀ entry ∈ entries, Confined passing [.invalid] (flattenEntry entry)) :
    Confined passing [.invalid] (flattenEntries entries) := by
  induction entries with
  | nil =>
    rw [flattenEntries]
    exact confined_ok []
  | cons entry rest ih =>
    rw [List.forall_mem_cons] at each
    rw [flattenEntries_cons]
    apply confined_bind each.1
    intro leaves _
    apply confined_bind (ih each.2)
    intro more _
    exact confined_ok _

theorem confined_flatten {v : Value} (long : v.holdsLong = true → passing .unwritable) :
    Confined passing [.invalid] (flatten v) := by
  induction v using flatten_induction with
  | list entries ih =>
    rw [flatten]
    apply confined_flattenEntries
    intro entry hentry
    have long : entry.holdsLong = true → passing .unwritable := fun given => long (Value.holdsLong_of_mem hentry given)
    cases entry with
    | mapping fields =>
      refine confined_flattenEntry stray long fun inner found => ?_
      exact ih fields inner hentry found fun given => long (holdsLong_of_nested? found given)
    | _ =>
      unfold flattenEntry
      exact confined_refusal long
  | other v h =>
    rw [flatten_other h]
    exact confined_error (.inl rfl)

end

end Preflight.Document
