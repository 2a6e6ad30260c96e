import Preflight.Proofs.Document.Numbers

namespace Preflight

open Fault

variable {entries : Entries}

namespace Entries

def getD (entries : Entries) (key : String) (default : Value) : Value := (entries.get? key).getD default

end Entries

theorem Value.getD_mapping (key : String) (default : Value) :
    (Value.mapping entries).getD key default = .ok (entries.getD key default) := rfl

theorem endsIn_getD {α : Type} {p : Fault → Bool} {key : String} {default : Value} {f : Value → Except Fault α} :
    EndsIn p ((Value.mapping entries).getD key default >>= f) ↔ EndsIn p (f (entries.getD key default)) := Iff.rfl

theorem strays_elements {α : Type} {v : Value} {f : List Value → Except Fault α} :
    EndsIn isStray (v.elements >>= f) ↔ ∃ values, v.elements? = some values ∧ EndsIn isStray (f values) := by
  unfold Value.elements
  cases v.elements? with
  | none =>
    change EndsIn isStray (.error _) ↔ _
    simp [isStray]
  | some values =>
    change EndsIn isStray (f values) ↔ _
    simp

theorem confined_elements {passing : Fault → Prop} (v : Value) : Confined passing [.kind] v.elements := by
  unfold Value.elements
  split
  · exact confined_ok _
  · exact confined_error (.inl rfl)

theorem keeps_elements (v : Value) : Keeps [.kind] v.elements := confined_elements v

theorem keeps_getD (v : Value) (key : String) (default : Value) {groups : List Group} :
    Keeps groups (v.getD key default) := by
  cases v with
  | mapping entries => exact keeps_ok _
  | _ => exact keeps_error (.inr rfl)

theorem strays_field {α : Type} {key : String} {f : Value → Except Fault α} :
    EndsIn isStray ((Value.mapping entries).field key >>= f) ↔ ∃ v, entries.get? key = some v ∧ EndsIn isStray (f v) := by
  unfold Value.field
  dsimp only
  cases entries.get? key with
  | none =>
    change EndsIn isStray (.error _) ↔ _
    simp [isStray]
  | some v =>
    change EndsIn isStray (f v) ↔ _
    simp

theorem keeps_field (v : Value) (key : String) : Keeps [.key, .kind] (v.field key) := by
  unfold Value.field
  split
  · split
    · exact keeps_ok _
    · exact keeps_error (.inl rfl)
  · exact keeps_error (.inl rfl)
  · exact keeps_error (.inl rfl)
  · exact keeps_error (.inl rfl)

theorem field_mapping {key : String} {v : Value} (h : entries.get? key = some v) :
    (Value.mapping entries).field key = .ok v := by
  simp [Value.field, h]

theorem confined_given {key : String} {passing : Fault → Prop} {groups : List Group}
    (h : (entries.get? key).isSome) : Confined passing groups ((Value.mapping entries).field key) := by
  obtain ⟨v, hv⟩ := Option.isSome_iff_exists.mp h
  rw [field_mapping hv]
  exact confined_ok v

theorem strays_real {α : Type} {P : Prop} {v : Value} {f : Float → Except Fault α}
    (rest : ∀ x, EndsIn isStray (f x) ↔ P) :
    EndsIn isStray (v.toReal >>= f) ↔ Slot.Confounds (.real (some v)) ∨ Slot.IsRead (.real (some v)) ∧ P := by
  rw [endsIn_bind, Value.strays_toReal]
  apply or_congr Iff.rfl
  simp [rest, Slot.IsRead]

theorem strays_whole {α : Type} {P : Prop} {v : Value} {f : Int → Except Fault α}
    (rest : ∀ n, EndsIn isStray (f n) ↔ P) :
    EndsIn isStray (v.toWhole >>= f) ↔ Slot.Confounds (.whole (some v)) ∨ Slot.IsRead (.whole (some v)) ∧ P := by
  rw [endsIn_bind, Value.strays_toWhole]
  apply or_congr Iff.rfl
  simp [rest, Slot.IsRead]

theorem strays_wholeField {α : Type} {P : Prop} {key : String} {f : Int → Except Fault α}
    (rest : ∀ n, EndsIn isStray (f n) ↔ P) :
    EndsIn isStray ((Value.mapping entries).field key >>= fun v => v.toWhole >>= f) ↔
      Slot.Confounds (.whole (entries.get? key)) ∨ Slot.IsRead (.whole (entries.get? key)) ∧ P := by
  rw [strays_field]
  cases entries.get? key with
  | none => simp [Slot.Confounds, Slot.IsRead]
  | some v => simpa using strays_whole rest

theorem strays_realUnder {α : Type} {P : Prop} {key : String} {f : Float → Except Fault α}
    (rest : ∀ x, EndsIn isStray (f x) ↔ P) :
    EndsIn isStray ((Value.mapping entries).field key >>= fun v => v.toReal >>= f) ↔
      Slot.Confounds (.real (entries.get? key)) ∨ Slot.IsRead (.real (entries.get? key)) ∧ P := by
  rw [strays_field]
  cases entries.get? key with
  | none => simp [Slot.Confounds, Slot.IsRead]
  | some v => simpa using strays_real rest

theorem keeps_realUnder {α : Type} {v : Value} {key : String} {f : Float → Except Fault α}
    (rest : ∀ x, Keeps [.key, .kind, .value] (f x)) :
    Keeps [.key, .kind, .value] (v.field key >>= fun given => given.toReal >>= f) := by
  apply keeps_bind ((keeps_field v key).mono (by simp))
  intro given _
  apply keeps_bind ((Value.keeps_toReal given).mono (by simp))
  intro x _
  exact rest x

namespace Item

def numberFields : List String := ["lat", "lon", "alt", "acceptance_radius", "loiter_radius"]

def slots (entries : Entries) : List Slot :=
  .whole (entries.get? "command") :: numberFields.map fun key => .real (some (entries.getD key (.real 0.0)))

def paramSlots (values : List Value) : List Slot := values.map fun v => .real (some v)

inductive Confounds (entries : Entries) : Prop
  | params (command : (entries.get? "command").isSome) (values : List Value)
    (given : (entries.getD "params" (.list [])).elements? = some values)
    (first : Slot.FirstConfounds (paramSlots values))
  | fields (command : (entries.get? "command").isSome) (values : List Value)
    (given : (entries.getD "params" (.list [])).elements? = some values)
    (read : ∀ slot ∈ paramSlots values, slot.IsRead) (few : values.length ≤ paramCount)
    (relative : Bool) (flag : entries.getD "relative_alt" (.boolean true) = .boolean relative)
    (first : Slot.FirstConfounds (slots entries))

/-- An item that is not read by values that a refusal would show, although a number of theirs has too many digits. -/
inductive Wordless (entries : Entries) : Prop
  | params (command : (entries.get? "command").isSome)
    (unread : ∀ params, readParams (.mapping entries) ≠ .ok params)
    (long : (entries.getD "params" .null).holdsLong = true)
  | flag (command : (entries.get? "command").isSome) (values : List Value)
    (given : (entries.getD "params" (.list [])).elements? = some values)
    (read : ∀ slot ∈ paramSlots values, slot.IsRead) (few : values.length ≤ paramCount)
    (odd : ∀ relative, entries.getD "relative_alt" (.boolean true) ≠ .boolean relative)
    (long : (entries.getD "relative_alt" (.boolean true)).holdsLong = true)

theorem holdsLong_of_wordless (h : Wordless entries) : (Value.mapping entries).holdsLong = true := by
  cases h with
  | params _ _ long => exact Value.holdsLong_of_getD rfl long
  | flag _ _ _ _ _ _ long => exact Value.holdsLong_of_getD rfl long

theorem strays_params (values : List Value) :
    EndsIn isStray (values.mapM Value.toReal) ↔ Slot.FirstConfounds (paramSlots values) := by
  rw [endsIn_mapM, Slot.FirstConfounds, paramSlots, foremost_map]
  exact foremost_congr (fun v => (Slot.isRead_real v).symm) Value.strays_toReal

theorem strays_realField {α : Type} {P : Prop} {key : String} {f : Float → Except Fault α}
    (rest : ∀ x, EndsIn isStray (f x) ↔ P) :
    EndsIn isStray (realField (.mapping entries) key >>= f) ↔
      Slot.Confounds (.real (some (entries.getD key (.real 0.0)))) ∨
        Slot.IsRead (.real (some (entries.getD key (.real 0.0)))) ∧ P := strays_real rest

theorem strays_readFields (relative : Bool) (params : Params) :
    EndsIn isStray (readFields (.mapping entries) relative params) ↔ Slot.FirstConfounds (slots entries) := by
  unfold readFields slots numberFields
  rw [Slot.FirstConfounds, foremost_cons]
  apply strays_wholeField
  intro code
  simp only [List.map_cons, List.map_nil, foremost_cons]
  apply strays_realField
  intro lat
  apply strays_realField
  intro lon
  apply strays_realField
  intro altitude
  apply strays_realField
  intro acceptanceRadius
  apply strays_realField
  intro loiterRadius
  exact iff_of_false (not_endsIn_ok _) not_foremost_nil

theorem readParams_mapping : readParams (.mapping entries) =
    (entries.getD "params" (.list [])).elements >>= fun values => values.mapM Value.toReal := rfl

theorem readParams_eq_ok {params : List Float} (h : readParams (.mapping entries) = .ok params) :
    ∃ values, (entries.getD "params" (.list [])).elements? = some values ∧
      (∀ slot ∈ paramSlots values, slot.IsRead) ∧ values.length = params.length := by
  rw [readParams_mapping, Value.elements] at h
  cases given : (entries.getD "params" (.list [])).elements? with
  | none =>
    rw [given] at h
    cases h
  | some values =>
    rw [given] at h
    have read : values.mapM Value.toReal = .ok params := h
    refine ⟨values, rfl, ?_, (length_of_mapM read).symm⟩
    simpa [paramSlots, Slot.isRead_real] using (mapM_reads Value.toReal values).mp ⟨params, read⟩

theorem readParams_of_isRead {values : List Value} (given : (entries.getD "params" (.list [])).elements? = some values)
    (read : ∀ slot ∈ paramSlots values, slot.IsRead) :
    ∃ params, readParams (.mapping entries) = .ok params ∧ params.length = values.length := by
  have each : ∀ v ∈ values, Reads? Value.toReal v := by simpa [paramSlots, Slot.isRead_real] using read
  obtain ⟨params, hparams⟩ := (mapM_reads Value.toReal values).mpr each
  refine ⟨params, ?_, length_of_mapM hparams⟩
  rw [readParams_mapping, Value.elements, given]
  exact hparams

def flagged (entries : Entries) (params : Params) (given : Value) : Except Fault Item :=
  match given with
  | .boolean relative => refusing [.kind, .value] id (readFields (.mapping entries) relative params)
  | given => .error (refusal (s!"relative_alt must be true or false, got {·}") (given.shown Value.literal))

theorem ofValue_mapping : ofValue (.mapping entries) = (do
    if !(entries.get? "command").isSome then throw (.invalid "missing required field 'command'")
    let params ← refusingWith [.kind, .value] (s!"invalid params {·}")
      ((entries.getD "params" .null).shown Value.literal) (readParams (.mapping entries))
    if paramCount < params.length then throw (.invalid s!"at most {paramCount} params allowed, got {params.length}")
    flagged entries (Params.ofList params) (entries.getD "relative_alt" (.boolean true))) := rfl

section

variable {passing : Fault → Prop} (real : ∀ v : Value, Confined passing [.kind, .value] v.toReal)
  (whole : ∀ v : Value, Confined passing [.kind, .value] v.toWhole)

include real

theorem confined_readParams : Confined passing [.kind, .value] (readParams (.mapping entries)) := by
  rw [readParams_mapping]
  apply confined_bind ((confined_elements _).mono (by simp))
  intro values _
  exact confined_mapM real values

include whole

theorem confined_readFields (command : (entries.get? "command").isSome) (relative : Bool) (params : Params) :
    Confined passing [.kind, .value] (readFields (.mapping entries) relative params) := by
  have field (key : String) : Confined passing [.kind, .value] (realField (.mapping entries) key) := real _
  unfold readFields
  apply confined_bind (confined_given command)
  intro given _
  apply confined_bind (whole given)
  intro code _
  apply confined_bind (field "lat")
  intro lat _
  apply confined_bind (field "lon")
  intro lon _
  apply confined_bind (field "alt")
  intro altitude _
  apply confined_bind (field "acceptance_radius")
  intro acceptanceRadius _
  apply confined_bind (field "loiter_radius")
  intro loiterRadius _
  exact confined_ok _

theorem confined_ofValue (long : (Value.mapping entries).holdsLong = true → passing .unwritable) :
    Confined passing [.invalid] (ofValue (.mapping entries)) := by
  have params : Confined passing [.kind, .value] (readParams (.mapping entries)) := confined_readParams real
  rw [ofValue_mapping]
  cases command : (entries.get? "command").isSome with
  | false => exact confined_error (.inl rfl)
  | true =>
    apply confined_bind (confined_refusingWith params fun given => long (Value.holdsLong_of_getD rfl given))
    intro params _
    apply confined_unless (confined_error (.inl rfl))
    unfold flagged
    split
    · exact confined_refusing (confined_readFields real whole command _ _)
    · exact confined_refusal fun given => long (Value.holdsLong_of_getD rfl given)

end

theorem unrefused_flagged (command : (entries.get? "command").isSome) (params : Params) (given : Value) :
    EndsIn isUnrefused (flagged entries params given) ↔
      (∃ relative, given = .boolean relative) ∧ Slot.FirstConfounds (slots entries) ∨
        (∀ relative, given ≠ .boolean relative) ∧ given.holdsLong = true := by
  cases given with
  | boolean relative =>
    have fields := confined_readFields Value.keeps_toReal Value.keeps_toWhole command relative params
    rw [flagged, unrefused_iff_strays (keeps_refusing fields), strays_refusing (by decide), strays_readFields]
    simp
  | _ => simp [flagged, unrefused_refusal]

theorem unrefused_ofValue : EndsIn isUnrefused (ofValue (.mapping entries)) ↔ Confounds entries ∨ Wordless entries := by
  have params : EndsIn isStray (readParams (.mapping entries)) ↔
      ∃ values, (entries.getD "params" (.list [])).elements? = some values ∧
        Slot.FirstConfounds (paramSlots values) := by
    rw [readParams_mapping, strays_elements]
    simp only [strays_params]
  rw [ofValue_mapping, endsIn_unless (fun _ => rfl), endsIn_bind,
    unrefused_refusingWith (by decide) (confined_readParams Value.keeps_toReal), params]
  have counted (params : List Float) (next : PUnit → Except Fault Item) :=
    @endsIn_unless _ isUnrefused (fun _ => rfl) (paramCount < params.length) _
      s!"at most {paramCount} params allowed, got {params.length}" next
  simp only [counted, refusingWith_eq_ok, Bool.not_eq_true', Bool.not_eq_false]
  constructor
  · rintro ⟨command, (⟨values, given, first⟩ | ⟨unread, long⟩) | ⟨params, hparams, few, rest⟩⟩
    · exact .inl (.params command values given first)
    · exact .inr (.params command unread long)
    · obtain ⟨values, given, read, length⟩ := readParams_eq_ok hparams
      have few : values.length ≤ paramCount := by omega
      rcases (unrefused_flagged command _ _).mp rest with ⟨⟨relative, flag⟩, first⟩ | ⟨odd, long⟩
      · exact .inl (.fields command values given read few relative flag first)
      · exact .inr (.flag command values given read few odd long)
  · have flagged {values : List Value} (command : (entries.get? "command").isSome)
        (given : (entries.getD "params" (.list [])).elements? = some values)
        (read : ∀ slot ∈ paramSlots values, slot.IsRead) (few : values.length ≤ paramCount)
        (rest : (∃ relative, entries.getD "relative_alt" (.boolean true) = .boolean relative) ∧
            Slot.FirstConfounds (slots entries) ∨
          (∀ relative, entries.getD "relative_alt" (.boolean true) ≠ .boolean relative) ∧
            (entries.getD "relative_alt" (.boolean true)).holdsLong = true) :
        ∃ params, readParams (.mapping entries) = .ok params ∧ ¬ paramCount < params.length ∧ EndsIn isUnrefused
          (flagged entries (Params.ofList params) (entries.getD "relative_alt" (.boolean true))) := by
      obtain ⟨params, hparams, length⟩ := readParams_of_isRead given read
      exact ⟨params, hparams, by omega, (unrefused_flagged command _ _).mpr rest⟩
    rintro ((⟨command, values, given, first⟩ | ⟨command, values, given, read, few, relative, flag, first⟩) |
      (⟨command, unread, long⟩ | ⟨command, values, given, read, few, odd, long⟩))
    · exact ⟨command, .inl (.inl ⟨values, given, first⟩)⟩
    · exact ⟨command, .inr (flagged command given read few (.inl ⟨⟨relative, flag⟩, first⟩))⟩
    · exact ⟨command, .inl (.inr ⟨unread, long⟩)⟩
    · exact ⟨command, .inr (flagged command given read few (.inr ⟨odd, long⟩))⟩

theorem confined_atPosition {α : Type} {x : Except Fault α} {passing : Fault → Prop} (position : Nat)
    (hx : Confined passing [.invalid] x) : Confined passing [.invalid] (atPosition position x) := confined_refusing hx

theorem keeps_atPosition {α : Type} {x : Except Fault α} (position : Nat) (hx : Keeps [.invalid] x) :
    Keeps [.invalid] (atPosition position x) := confined_atPosition position hx

theorem unrefused_atPosition {α : Type} {x : Except Fault α} (position : Nat) :
    EndsIn isUnrefused (atPosition position x) ↔ EndsIn isUnrefused x := unrefused_refusing_invalid

def IsRead (v : Value) : Prop := ∃ entries item, v = .mapping entries ∧ ofValue v = .ok item

def EntryConfounds (v : Value) : Prop := ∃ entries, v = .mapping entries ∧ Confounds entries

def EntryFails (v : Value) : Prop := ∃ entries, v = .mapping entries ∧ (Confounds entries ∨ Wordless entries)

def readEntry (position : Nat) : Value → Except Fault Item
  | .mapping entries => atPosition position (ofValue (.mapping entries))
  | _ => .error (.invalid s!"Item {position}: expected an object")

theorem readFrom_eq (position : Nat) (values : List Value) :
    readFrom position values = eachFrom readEntry position values := by
  induction values generalizing position with
  | nil => rfl
  | cons v rest ih =>
    rw [eachFrom, ← ih]
    cases v <;> rfl

theorem readEntry_eq_ok {position : Nat} {v : Value} {item : Item} :
    readEntry position v = .ok item ↔ ∃ entries, v = .mapping entries ∧ ofValue v = .ok item := by
  cases v <;> simp [readEntry, atPosition]

theorem isRead_iff (position : Nat) (v : Value) : Reads? (readEntry position) v ↔ IsRead v := by
  simp only [Reads?, readEntry_eq_ok, IsRead]
  exact exists_comm

theorem unrefused_readEntry (position : Nat) (v : Value) :
    EndsIn isUnrefused (readEntry position v) ↔ EntryFails v := by
  cases v with
  | mapping entries =>
    change EndsIn isUnrefused (atPosition position _) ↔ _
    rw [unrefused_atPosition, unrefused_ofValue]
    simp [EntryFails]
  | _ => simp [readEntry, EntryFails, isUnrefused]

theorem unrefused_listOfValue (values : List Value) :
    EndsIn isUnrefused (listOfValue (.list values)) ↔ Foremost IsRead EntryFails values := by
  change EndsIn isUnrefused (readFrom 1 values) ↔ _
  rw [readFrom_eq]
  exact endsIn_eachFrom isRead_iff unrefused_readEntry 1 values

theorem reads_listOfValue (values : List Value) :
    (∃ items, listOfValue (.list values) = .ok items) ↔ ∀ v ∈ values, IsRead v := by
  change (∃ items, readFrom 1 values = .ok items) ↔ _
  rw [readFrom_eq]
  exact eachFrom_reads isRead_iff 1 values

theorem confined_listOfValue {passing : Fault → Prop} {values : List Value}
    (real : ∀ v : Value, Confined passing [.kind, .value] v.toReal)
    (whole : ∀ v : Value, Confined passing [.kind, .value] v.toWhole)
    (long : (Value.list values).holdsLong = true → passing .unwritable) :
    Confined passing [.invalid] (listOfValue (.list values)) := by
  change Confined _ _ (readFrom 1 values)
  rw [readFrom_eq]
  refine confined_eachFrom (fun position v hv => ?_) 1
  cases v with
  | mapping entries =>
    have given := confined_ofValue real whole fun found => long (Value.holdsLong_of_mem hv found)
    exact confined_atPosition position given
  | _ => exact confined_error (.inl rfl)

end Item

end Preflight
