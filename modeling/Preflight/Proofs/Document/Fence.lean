import Preflight.Proofs.Document.Items

namespace Preflight

open Fault

variable {entries : Entries}

namespace Home

def Confounds (v : Value) : Prop :=
  ∃ fields, v = .mapping fields ∧
    Slot.FirstConfounds
      [.real (Entries.get? fields "lat"), .real (Entries.get? fields "lon"), .real (Entries.get? fields "alt")]

theorem strays_ofValue (v : Value) : EndsIn isStray (ofValue v) ↔ Confounds v := by
  unfold ofValue
  rw [strays_refusing (by decide)]
  cases v with
  | mapping fields =>
    have read : EndsIn isStray (readFields (.mapping fields)) ↔ Slot.FirstConfounds
        [.real (Entries.get? fields "lat"), .real (Entries.get? fields "lon"), .real (Entries.get? fields "alt")] := by
      unfold readFields
      simp only [Slot.FirstConfounds, foremost_cons]
      apply strays_realUnder
      intro lat
      apply strays_realUnder
      intro lon
      apply strays_realUnder
      intro altitude
      exact iff_of_false (not_endsIn_ok _) not_foremost_nil
    simp [Confounds, read]
  | _ =>
    refine iff_of_false ?_ (by simp [Confounds])
    simp [readFields, Value.field, endsIn_bind, isStray]

theorem keeps_ofValue (v : Value) : Keeps [.invalid] (ofValue v) := by
  apply keeps_refusing
  unfold readFields
  apply keeps_realUnder
  intro lat
  apply keeps_realUnder
  intro lon
  apply keeps_realUnder
  intro altitude
  exact keeps_ok _

end Home

namespace Position

def Confounds (v : Value) : Prop :=
  ∃ lat lon, v.elements? = some [lat, lon] ∧ Slot.FirstConfounds [.real (some lat), .real (some lon)]

theorem keeps_pair (v : Value) : Keeps [.kind, .value] v.pair := by
  unfold Value.pair
  split
  · exact keeps_ok _
  · split
    · exact keeps_error (.inl rfl)
    · exact keeps_error (.inl rfl)
  · exact keeps_error (.inl rfl)

theorem pair_eq_ok {v a b : Value} : v.pair = .ok (a, b) ↔ v.elements? = some [a, b] := by
  unfold Value.pair
  split
  next given => simp [given]
  next values other given =>
    refine iff_of_false ?_ fun h => ?_
    · split <;> nofun
    · rw [given] at h
      exact other a b (Option.some.inj h)
  next given => simp [given]

theorem not_strays_pair (v : Value) : ¬ EndsIn isStray v.pair := by
  unfold Value.pair
  split
  · exact not_endsIn_ok _
  · split <;> simp [isStray]
  · simp [isStray]

theorem strays_pair {α : Type} {v : Value} {f : Value × Value → Except Fault α} :
    EndsIn isStray (v.pair >>= f) ↔ ∃ a b, v.elements? = some [a, b] ∧ EndsIn isStray (f (a, b)) := by
  rw [endsIn_bind, or_iff_right (not_strays_pair v)]
  simp only [Prod.exists, pair_eq_ok]

theorem strays_then {α : Type} {slots : List Slot} {v : Value} {f : Position → Except Fault α}
    (rest : ∀ position, EndsIn isStray (f position) ↔ Foremost Slot.IsRead Slot.Confounds slots) :
    EndsIn isStray (ofValue v >>= f) ↔ ∃ lat lon, v.elements? = some [lat, lon] ∧
      Slot.FirstConfounds (.real (some lat) :: .real (some lon) :: slots) := by
  have flat : ofValue v >>= f = v.pair >>= fun pair => pair.1.toReal >>= fun lat => pair.2.toReal >>= fun lon =>
      f ⟨lat, lon⟩ := by
    unfold ofValue
    simp only [bind_assoc, pure_bind]
  rw [flat, strays_pair]
  apply exists_congr
  intro lat
  apply exists_congr
  intro lon
  apply and_congr Iff.rfl
  simp only [Slot.FirstConfounds, foremost_cons]
  apply strays_real
  intro x
  apply strays_real
  intro y
  exact rest ⟨x, y⟩

theorem strays_ofValue (v : Value) : EndsIn isStray (ofValue v) ↔ Confounds v := by
  rw [← bind_pure (ofValue v)]
  apply strays_then
  intro position
  exact iff_of_false (not_endsIn_ok _) not_foremost_nil

theorem keeps_ofValue (v : Value) : Keeps [.kind, .value] (ofValue v) := by
  unfold ofValue
  apply keeps_bind (keeps_pair v)
  intro pair _
  apply keeps_bind (Value.keeps_toReal pair.1)
  intro lat _
  apply keeps_bind (Value.keeps_toReal pair.2)
  intro lon _
  exact keeps_ok _

end Position

namespace Polygon

def IsOpen (vertices : List Position) : Prop :=
  ∃ first rest points, vertices = first :: rest ∧ leastVertices ≤ vertices.length ∧
    (vertices.mapM fun v => Geodesy.project v.lat v.lon first.lat first.lon) = .ok points ∧
    Ring.closes ⟨points⟩ = false

def listed? (entries : Entries) : Option (List Value) := (entries.get? "polygon").bind Value.elements?

inductive Confounds : Value → Prop
  | vertex {fields : Entries} {values : List Value} (given : listed? fields = some values)
    (first : Foremost (Reads? Position.ofValue) Position.Confounds values) : Confounds (.mapping fields)
  | ring {fields : Entries} {values : List Value} {vertices : List Position} (given : listed? fields = some values)
    (read : values.mapM Position.ofValue = .ok vertices) (isOpen : IsOpen vertices) : Confounds (.mapping fields)

theorem project_not_strays (v first : Position) : ¬ EndsIn isStray (Geodesy.project v.lat v.lon first.lat first.lon) := by
  unfold Geodesy.project
  rw [endsIn_bind]
  rintro (stray | ⟨width, -, stray⟩)
  · unfold Geodesy.cos Geodesy.inDomain at stray
    split at stray
    · exact not_endsIn_ok _ stray
    · exact nomatch (endsIn_error _).mp stray
  · exact not_endsIn_ok _ stray

theorem strays_ofVertices (vertices : List Position) (inclusion : Bool) :
    EndsIn isStray (ofVertices vertices inclusion) ↔ IsOpen vertices := by
  unfold ofVertices
  cases vertices with
  | nil => simp [IsOpen]
  | cons first rest =>
    dsimp only
    split
    next few =>
      refine iff_of_false (not_endsIn_ok _) ?_
      rintro ⟨_, _, _, -, enough, -⟩
      omega
    next enough =>
      have points : ¬ EndsIn isStray ((first :: rest).mapM fun v => Geodesy.project v.lat v.lon first.lat first.lon) := by
        rw [endsIn_mapM]
        rintro ⟨_, v, _, -, -, stray⟩
        exact project_not_strays v first stray
      rw [endsIn_bind, or_iff_right points]
      have closing (points : List Geodesy.Point) : EndsIn isStray (if (Ring.mk points).closes = true then
          pure (Polygon.mk (first :: rest) inclusion ⟨points⟩) else throw openRing) ↔
            (Ring.mk points).closes = false := by
        cases (Ring.mk points).closes
        · exact iff_of_true ⟨_, rfl, rfl⟩ rfl
        · exact iff_of_false (not_endsIn_ok _) nofun
      simp only [closing]
      constructor
      · rintro ⟨points, drawn, isOpen⟩
        exact ⟨first, rest, points, rfl, by omega, drawn, isOpen⟩
      · rintro ⟨_, _, points, ⟨⟩, -, drawn, isOpen⟩
        exact ⟨points, drawn, isOpen⟩

theorem keeps_ofVertices (vertices : List Position) (inclusion : Bool) :
    Keeps [.value] (ofVertices vertices inclusion) := by
  unfold ofVertices
  split
  · exact keeps_ok _
  · split
    · exact keeps_ok _
    · apply keeps_bind
      · apply keeps_mapM
        intro v
        unfold Geodesy.project
        apply keeps_bind
        · unfold Geodesy.cos Geodesy.inDomain
          split
          · exact keeps_ok _
          · exact keeps_error (.inl rfl)
        · intro width _
          exact keeps_ok _
      · intro points _
        dsimp only
        split
        · exact keeps_ok _
        · exact keeps_error (.inr rfl)

theorem strays_vertices (values : List Value) :
    EndsIn isStray (values.mapM Position.ofValue) ↔ Foremost (Reads? Position.ofValue) Position.Confounds values := by
  rw [endsIn_mapM]
  exact foremost_congr (fun _ => Iff.rfl) Position.strays_ofValue

theorem strays_ofFields {fields : Entries} : EndsIn isStray (ofEntry (.mapping fields)) ↔
    ∃ values, listed? fields = some values ∧ (Foremost (Reads? Position.ofValue) Position.Confounds values ∨
      ∃ vertices, values.mapM Position.ofValue = .ok vertices ∧ IsOpen vertices) := by
  change EndsIn isStray ((Value.mapping fields).field "polygon" >>= fun v => v.elements >>= fun values =>
    values.mapM Position.ofValue >>= fun vertices =>
      ofVertices vertices (fields.getD "inclusion" (.boolean true)).isGiven) ↔ _
  have rest (values : List Value) : EndsIn isStray (values.mapM Position.ofValue >>= fun vertices =>
      ofVertices vertices (fields.getD "inclusion" (.boolean true)).isGiven) ↔
        (Foremost (Reads? Position.ofValue) Position.Confounds values ∨
          ∃ vertices, values.mapM Position.ofValue = .ok vertices ∧ IsOpen vertices) := by
    simp only [endsIn_bind, strays_vertices, strays_ofVertices]
  rw [strays_field]
  unfold listed?
  cases fields.get? "polygon" with
  | none => simp
  | some v => simp [strays_elements, rest]

theorem strays_ofEntry (entry : Value) : EndsIn isStray (ofEntry entry) ↔ Confounds entry := by
  cases entry with
  | mapping fields =>
    rw [strays_ofFields]
    constructor
    · rintro ⟨values, given, first | ⟨vertices, read, isOpen⟩⟩
      · exact .vertex given first
      · exact .ring given read isOpen
    · rintro (⟨given, first⟩ | ⟨given, read, isOpen⟩)
      · exact ⟨_, given, .inl first⟩
      · exact ⟨_, given, .inr ⟨_, read, isOpen⟩⟩
  | _ =>
    refine iff_of_false ?_ (by rintro ⟨⟩)
    simp [ofEntry, Value.field, endsIn_bind, isStray]

theorem keeps_inclusionOf (entry : Value) {groups : List Group} : Keeps groups (inclusionOf entry) := by
  apply keeps_bind (keeps_getD entry "inclusion" _)
  intro given _
  exact keeps_ok _

theorem keeps_ofEntry (entry : Value) : Keeps [.key, .kind, .value] (ofEntry entry) := by
  unfold ofEntry
  apply keeps_bind ((keeps_field entry "polygon").mono (by simp))
  intro given _
  apply keeps_bind ((keeps_elements given).mono (by simp))
  intro values _
  apply keeps_bind ((keeps_mapM Position.keeps_ofValue values).mono (by simp))
  intro vertices _
  apply keeps_bind (keeps_inclusionOf entry)
  intro inclusion _
  exact (keeps_ofVertices vertices inclusion).mono (by simp)

end Polygon

namespace Circle

def slots (circle : Entries) (lat lon : Value) : List Slot :=
  [.real (some lat), .real (some lon), .real (circle.get? "radius")]

inductive Confounds : Value → Prop
  | numbers {fields circle : Entries} {center lat lon : Value} (given : fields.get? "circle" = some (.mapping circle))
    (centered : circle.get? "center" = some center) (pair : center.elements? = some [lat, lon])
    (first : Slot.FirstConfounds (slots circle lat lon)) : Confounds (.mapping fields)

theorem strays_numbers {circle : Entries} (inclusion : Except Fault Bool) (kept : ¬ EndsIn isStray inclusion) :
    EndsIn isStray (do
      let center ← Position.ofValue (← (Value.mapping circle).field "center")
      let radius ← (← (Value.mapping circle).field "radius").toReal
      return Circle.mk center radius (← inclusion)) ↔ ∃ center lat lon, circle.get? "center" = some center ∧
        center.elements? = some [lat, lon] ∧ Slot.FirstConfounds (slots circle lat lon) := by
  have radius (center : Position) : EndsIn isStray (do
      let radius ← (← (Value.mapping circle).field "radius").toReal
      return Circle.mk center radius (← inclusion)) ↔ Slot.FirstConfounds [.real (circle.get? "radius")] := by
    rw [Slot.FirstConfounds, foremost_cons]
    apply strays_realUnder
    intro radius
    refine iff_of_false ?_ not_foremost_nil
    exact mt endsIn_map.mp kept
  rw [strays_field]
  simp only [Position.strays_then radius]
  simp [slots]

theorem strays_ofEntry (entry : Value) : EndsIn isStray (ofEntry entry) ↔ Confounds entry := by
  cases entry with
  | mapping fields =>
    have found : EndsIn isStray (ofEntry (.mapping fields)) ↔ _ := strays_field
    rw [found]
    constructor
    · rintro ⟨v, given, escaped⟩
      cases v with
      | mapping circle =>
        obtain ⟨center, lat, lon, centered, pair, first⟩ := (strays_numbers _ (not_endsIn_ok _)).mp escaped
        exact .numbers given centered pair first
      | _ => simp [Value.field, endsIn_bind, isStray] at escaped
    · rintro ⟨given, centered, pair, first⟩
      exact ⟨_, given, (strays_numbers _ (not_endsIn_ok _)).mpr ⟨_, _, _, centered, pair, first⟩⟩
  | _ =>
    refine iff_of_false ?_ (by rintro ⟨⟩)
    simp [ofEntry, Value.field, endsIn_bind, isStray]

theorem keeps_ofEntry (entry : Value) : Keeps [.key, .kind, .value] (ofEntry entry) := by
  unfold ofEntry
  apply keeps_bind ((keeps_field entry "circle").mono (by simp))
  intro circle _
  apply keeps_bind ((keeps_field circle "center").mono (by simp))
  intro given _
  apply keeps_bind ((Position.keeps_ofValue given).mono (by simp))
  intro center _
  apply keeps_realUnder
  intro radius
  apply keeps_bind (Polygon.keeps_inclusionOf entry)
  intro inclusion _
  exact keeps_ok _

end Circle

namespace AreaFence

def listed? (entries : Entries) (key : String) : Option (List Value) :=
  (entries.getD key (.list [])).elements?

def ceiling? (entries : Entries) : Option Value :=
  match entries.getD "max_altitude_amsl" .null with
  | .null => none
  | given => some given

inductive Confounds : Value → Prop
  | kind {v : Value} (odd : ∀ entries, v ≠ .mapping entries) : Confounds v
  | polygons {entries : Entries} {polygons : List Value} (given : listed? entries "polygons" = some polygons)
    (first : Foremost (Reads? Polygon.ofEntry) Polygon.Confounds polygons) : Confounds (.mapping entries)
  | circles {entries : Entries} {polygons circles : List Value} (given : listed? entries "polygons" = some polygons)
    (read : ∀ entry ∈ polygons, Reads? Polygon.ofEntry entry) (given' : listed? entries "circles" = some circles)
    (first : Foremost (Reads? Circle.ofEntry) Circle.Confounds circles) : Confounds (.mapping entries)
  | ceiling {entries : Entries} {polygons circles : List Value} {ceiling : Value}
    (given : listed? entries "polygons" = some polygons) (read : ∀ entry ∈ polygons, Reads? Polygon.ofEntry entry)
    (given' : listed? entries "circles" = some circles) (read' : ∀ entry ∈ circles, Reads? Circle.ofEntry entry)
    (given'' : ceiling? entries = some ceiling) (beyond : Slot.Confounds (.real (some ceiling))) :
    Confounds (.mapping entries)

theorem strays_ceiling {entries : Entries} (polygons : List Polygon) (circles : List Circle) :
    EndsIn isStray (do
      let ceiling ← match ← (Value.mapping entries).getD "max_altitude_amsl" .null with
        | .null => pure none
        | given => some <$> given.toReal
      let homeRequired := (← (Value.mapping entries).getD "home_required" (.boolean false)).isGiven
      return build polygons circles ceiling homeRequired) ↔
    ∃ ceiling, ceiling? entries = some ceiling ∧ Slot.Confounds (.real (some ceiling)) := by
  rw [endsIn_getD]
  unfold ceiling?
  generalize entries.getD "max_altitude_amsl" .null = given
  have number (v : Value) : EndsIn isStray (some <$> v.toReal >>= fun ceiling =>
      pure (build polygons circles ceiling (entries.getD "home_required" (.boolean false)).isGiven)) ↔
        Slot.Confounds (.real (some v)) := by
    rw [endsIn_bind, endsIn_map, Value.strays_toReal, or_iff_left]
    rintro ⟨ceiling, -, escaped⟩
    exact not_endsIn_ok _ escaped
  cases given with
  | null => exact iff_of_false (not_endsIn_ok _) nofun
  | _ => exact (number _).trans (by simp)

theorem strays_polygons (values : List Value) :
    EndsIn isStray (values.mapM Polygon.ofEntry) ↔ Foremost (Reads? Polygon.ofEntry) Polygon.Confounds values := by
  rw [endsIn_mapM]
  exact foremost_congr (fun _ => Iff.rfl) Polygon.strays_ofEntry

theorem strays_circles (values : List Value) :
    EndsIn isStray (values.mapM Circle.ofEntry) ↔ Foremost (Reads? Circle.ofEntry) Circle.Confounds values := by
  rw [endsIn_mapM]
  exact foremost_congr (fun _ => Iff.rfl) Circle.strays_ofEntry

theorem strays_listed {α β : Type} {P : Prop} {entries : Entries} {key : String} {ofEntry : Value → Except Fault α}
    {f : List α → Except Fault β} (rest : ∀ areas, EndsIn isStray (f areas) ↔ P) :
    EndsIn isStray ((Value.mapping entries).getD key (.list []) >>= fun v => v.elements >>= fun values =>
      values.mapM ofEntry >>= f) ↔ ∃ values, listed? entries key = some values ∧
        (EndsIn isStray (values.mapM ofEntry) ∨ (∀ entry ∈ values, Reads? ofEntry entry) ∧ P) := by
  rw [endsIn_getD, strays_elements]
  simp only [endsIn_bind, rest, ← mapM_reads]
  simp [Reads?, listed?]

theorem strays_readFields {entries : Entries} :
    EndsIn isStray (readFields (.mapping entries)) ↔ Confounds (.mapping entries) := by
  have flat : EndsIn isStray (readFields (.mapping entries)) ↔ _ :=
    strays_listed fun polygons => strays_listed fun circles => strays_ceiling polygons circles
  rw [flat]
  simp only [strays_polygons, strays_circles]
  constructor
  · rintro ⟨polygons, given, first | ⟨read, circles, given', first | ⟨read', ceiling, given'', beyond⟩⟩⟩
    · exact .polygons given first
    · exact .circles given read given' first
    · exact .ceiling given read given' read' given'' beyond
  · rintro (odd | ⟨given, first⟩ | ⟨given, read, given', first⟩ | ⟨given, read, given', read', given'', beyond⟩)
    · exact absurd rfl (odd entries)
    · exact ⟨_, given, .inl first⟩
    · exact ⟨_, given, .inr ⟨read, _, given', .inl first⟩⟩
    · exact ⟨_, given, .inr ⟨read, _, given', .inr ⟨read', _, given'', beyond⟩⟩⟩

theorem strays_ofValue (v : Value) : EndsIn isStray (ofValue v) ↔ Confounds v := by
  unfold ofValue
  rw [strays_refusing (by decide)]
  cases v with
  | mapping entries => exact strays_readFields
  | _ => exact iff_of_true ⟨_, rfl, rfl⟩ (.kind nofun)

theorem keeps_ceiling (v : Value) : Keeps [.key, .kind, .value] (some <$> v.toReal) := by
  apply keeps_bind ((Value.keeps_toReal v).mono (by simp))
  intro x _
  exact keeps_ok _

theorem keeps_ofValue (v : Value) : Keeps [.invalid] (ofValue v) := by
  apply keeps_refusing
  unfold readFields
  apply keeps_bind (keeps_getD v "polygons" _)
  intro given _
  apply keeps_bind ((keeps_elements given).mono (by simp))
  intro values _
  apply keeps_bind (keeps_mapM Polygon.keeps_ofEntry values)
  intro polygons _
  apply keeps_bind (keeps_getD v "circles" _)
  intro given _
  apply keeps_bind ((keeps_elements given).mono (by simp))
  intro values _
  apply keeps_bind (keeps_mapM Circle.keeps_ofEntry values)
  intro circles _
  apply keeps_bind (keeps_getD v "max_altitude_amsl" _)
  intro given _
  have rest (ceiling : Option Float) : Keeps [.key, .kind, .value] (do
      let homeRequired := (← v.getD "home_required" (.boolean false)).isGiven
      return build polygons circles ceiling homeRequired) := by
    apply keeps_bind (keeps_getD v "home_required" _)
    intro homeRequired _
    exact keeps_ok _
  cases given with
  | null => exact rest none
  | _ =>
    apply keeps_bind (keeps_ceiling _)
    intro ceiling _
    exact rest ceiling

end AreaFence

end Preflight
