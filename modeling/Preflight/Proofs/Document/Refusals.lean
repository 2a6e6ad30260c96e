import Preflight.Proofs.Document.Fence
import Preflight.Proofs.Document.Plan

/-!
What reading a document can end in. It is read, or it is refused with a reason, or it confounds the reader: a number in
it is too great or has no whole part where one is needed, a section of it is no mapping, or a ring of its geofence
cannot be closed. `Confounds` says of which documents the last is true, in the order in which their parts are read.
-/
namespace Preflight.Document

open Fault

variable {entries : Entries}

def GivenUnder (entries : Entries) (key : String) (P : Value → Prop) : Prop :=
  ∃ v, entries.getD key .null = v ∧ v.isGiven = true ∧ P v

theorem endsIn_optional {α β : Type} {p : Fault → Bool} {key : String} {read : Value → Except Fault α} {wrap : α → β}
    {without : β}
    {confounds : Value → Prop} (hread : ∀ v, EndsIn p (read v) ↔ confounds v) :
    EndsIn p (do
      let given ← (Value.mapping entries).getD key .null
      if given.isGiven then return wrap (← read given) else return without) ↔ GivenUnder entries key confounds := by
  rw [endsIn_getD]
  split
  next given =>
    have wrapped : EndsIn p (wrap <$> read (entries.getD key .null)) ↔ _ := endsIn_map.trans (hread _)
    change EndsIn p (wrap <$> read (entries.getD key .null)) ↔ _
    rw [wrapped]
    simp [GivenUnder, given]
  next given => simp [GivenUnder, given, pure, Except.pure]

theorem confined_optional {α β : Type} {passing : Fault → Prop} {key : String} {read : Value → Except Fault α}
    {wrap : α → β} {without : β} (hread : Confined passing [.invalid] (read (entries.getD key .null))) :
    Confined passing [.invalid] (do
      let given ← (Value.mapping entries).getD key .null
      if given.isGiven then return wrap (← read given) else return without) := by
  change Confined _ _ (if (entries.getD key .null).isGiven = true then wrap <$> read (entries.getD key .null)
    else .ok without)
  split
  · apply confined_bind hread
    intro a _
    exact confined_ok (wrap a)
  · exact confined_ok without

theorem keeps_underKey (key : String) : Keeps [.invalid] (Home.underKey (.mapping entries) key) :=
  confined_optional (Home.keeps_ofValue _)

theorem keeps_fenceUnder (key : String) : Keeps [.invalid] (fenceUnder (.mapping entries) key) :=
  confined_optional (AreaFence.keeps_ofValue _)

theorem strays_underKey (key : String) :
    EndsIn isStray (Home.underKey (.mapping entries) key) ↔ GivenUnder entries key Home.Confounds :=
  endsIn_optional Home.strays_ofValue

theorem strays_fenceUnder (key : String) :
    EndsIn isStray (fenceUnder (.mapping entries) key) ↔ GivenUnder entries key AreaFence.Confounds :=
  endsIn_optional AreaFence.strays_ofValue

def PlannedHomeConfounds (v : Value) : Prop :=
  ∃ values, v.elements? = some values ∧ Slot.FirstConfounds ((values.take 4).map fun v => .real (some v))

theorem strays_readPlannedHome (v : Value) : EndsIn isStray (readPlannedHome v) ↔ PlannedHomeConfounds v := by
  unfold readPlannedHome
  rw [strays_elements]
  apply exists_congr
  intro values
  apply and_congr Iff.rfl
  rw [endsIn_bind, or_iff_left]
  · exact Item.strays_params (values.take 4)
  · rintro ⟨numbers, -, escaped⟩
    split at escaped
    · exact not_endsIn_ok _ escaped
    · split at escaped <;> exact nomatch (endsIn_error _).mp escaped

theorem keeps_readPlannedHome (v : Value) : Keeps [.kind, .value] (readPlannedHome v) := by
  unfold readPlannedHome
  apply keeps_bind ((keeps_elements v).mono (by simp))
  intro values _
  apply keeps_bind (keeps_mapM Value.keeps_toReal _)
  intro numbers _
  split
  · exact keeps_ok _
  · split <;> exact keeps_error (.inl rfl)

def PlannedHomeFails (v : Value) : Prop :=
  PlannedHomeConfounds v ∨ (∀ home, readPlannedHome v ≠ .ok home) ∧ v.holdsLong = true

theorem unrefused_plannedHome :
    EndsIn isUnrefused (plannedHome (.mapping entries)) ↔ GivenUnder entries "plannedHomePosition" PlannedHomeFails := by
  apply endsIn_optional
  intro given
  rw [unrefused_refusingWith (by decide) (keeps_readPlannedHome given), strays_readPlannedHome, PlannedHomeFails]

inductive PlainConfounds (entries : Entries) : Prop
  | items {items : List Value} (given : entries.get? "items" = some (.list items))
    (first : Foremost Item.IsRead Item.EntryFails items) : PlainConfounds entries
  | home {items : List Value} (given : entries.get? "items" = some (.list items))
    (read : ∀ v ∈ items, Item.IsRead v) (confounds : GivenUnder entries "home" Home.Confounds) : PlainConfounds entries
  | fence {items : List Value} (given : entries.get? "items" = some (.list items))
    (read : ∀ v ∈ items, Item.IsRead v) (home : ∃ home, Home.underKey (.mapping entries) "home" = .ok home)
    (confounds : GivenUnder entries "geofence" AreaFence.Confounds) : PlainConfounds entries

/-- One that confounds the reader of the plan form: by what its items are nested in, by an item, or else by its home
position, or else by its geofence. -/
inductive PlanConfounds (entries : Entries) : Prop
  | nesting {mission : Entries} (given : entries.get? "mission" = some (.mapping mission))
    (stranded : Stranded (mission.getD "items" (.list []))) : PlanConfounds entries
  | items {mission : Entries} {items : List Value} (given : entries.get? "mission" = some (.mapping mission))
    (flat : flatten (mission.getD "items" (.list [])) = .ok items)
    (first : Foremost (Reads? planItem) PlanEntryConfounds items) : PlanConfounds entries
  | home {mission : Entries} {items : List Value} (given : entries.get? "mission" = some (.mapping mission))
    (flat : flatten (mission.getD "items" (.list [])) = .ok items) (read : ∀ v ∈ items, Reads? planItem v)
    (fails : GivenUnder mission "plannedHomePosition" PlannedHomeFails) : PlanConfounds entries
  | fence {mission : Entries} {items : List Value} (given : entries.get? "mission" = some (.mapping mission))
    (flat : flatten (mission.getD "items" (.list [])) = .ok items) (read : ∀ v ∈ items, Reads? planItem v)
    (home : ∃ home, plannedHome (.mapping mission) = .ok home)
    (confounds : GivenUnder entries "geoFence" AreaFence.Confounds) : PlanConfounds entries

def IsPlan (entries : Entries) : Prop := (entries.getD "fileType" .null).isText "Plan" = true

inductive Confounds : Value → Prop
  | plain {entries : Entries} (form : ¬ IsPlan entries) (confounds : PlainConfounds entries) :
    Confounds (.mapping entries)
  | plan {entries : Entries} (form : IsPlan entries) (confounds : PlanConfounds entries) : Confounds (.mapping entries)

def sections (items : Except Fault (List Item)) (home : Except Fault (Option Home)) (fence : Except Fault Geofence) :
    Except Fault Document := do
  return { items := ← items, home := ← home, fence := ← fence }

section

variable {items : Except Fault (List Item)} {home : Except Fault (Option Home)} {fence : Except Fault Geofence}

theorem endsIn_sections {p : Fault → Bool} : EndsIn p (sections items home fence) ↔
    EndsIn p items ∨ (∃ read, items = .ok read) ∧ (EndsIn p home ∨ (∃ read, home = .ok read) ∧ EndsIn p fence) := by
  have last (items : List Item) (home : Option Home) :
      EndsIn p (fence >>= fun fence => pure (Document.mk items home fence)) ↔ EndsIn p fence :=
    endsIn_map (g := fun fence => Document.mk items home fence)
  unfold sections
  simp only [endsIn_bind (x := items), endsIn_bind (x := home), last]
  simp

theorem confined_sections {passing : Fault → Prop} (hitems : Confined passing [.invalid] items)
    (hhome : Confined passing [.invalid] home)
    (hfence : Confined passing [.invalid] fence) : Confined passing [.invalid] (sections items home fence) := by
  apply confined_bind hitems
  intro items _
  apply confined_bind hhome
  intro home _
  apply confined_bind hfence
  intro fence _
  exact confined_ok _

end

theorem ofPlain_cases (entries : Entries) : (∃ items, entries.get? "items" = some (.list items) ∧
      ofPlain (.mapping entries) = sections (Item.listOfValue (.list items)) (Home.underKey (.mapping entries) "home")
        (fenceUnder (.mapping entries) "geofence")) ∨
    (∀ items, entries.get? "items" ≠ some (.list items)) ∧ ∃ reason, ofPlain (.mapping entries) = refuse reason := by
  have listed : (Value.mapping entries).holds "items" = .ok (entries.get? "items").isSome := rfl
  cases given : entries.get? "items" with
  | none =>
    refine .inr ⟨nofun, "mission has no items", ?_⟩
    unfold ofPlain
    rw [listed, given]
    rfl
  | some v =>
    have found : (Value.mapping entries).holds "items" = .ok true := by rw [listed, given, Option.isSome_some]
    unfold ofPlain
    rw [found, field_mapping given]
    cases v with
    | list items => exact .inl ⟨items, rfl, rfl⟩
    | _ => exact .inr ⟨by rintro _ ⟨⟩, "mission items must be a list", rfl⟩

theorem ofPlan_cases (entries : Entries) : (∃ mission : Entries, entries.get? "mission" = some (.mapping mission) ∧
      ofPlan (.mapping entries) = sections (flatten (Entries.getD mission "items" (.list [])) >>= planItemsFrom 1)
        (plannedHome (.mapping mission)) (fenceUnder (.mapping entries) "geoFence")) ∨
    (∀ mission, entries.get? "mission" ≠ some (.mapping mission)) ∧
      ofPlan (.mapping entries) = refuse "plan has no mission section" := by
  unfold ofPlan
  rw [Value.getD_mapping, ok_bind, Entries.getD]
  cases given : entries.get? "mission" with
  | none => exact .inr ⟨nofun, rfl⟩
  | some v =>
    cases v with
    | mapping mission =>
      refine .inl ⟨mission, rfl, ?_⟩
      simp only [sections, bind_assoc]
      rfl
    | _ => exact .inr ⟨by rintro _ ⟨⟩, rfl⟩

theorem unrefused_ofPlain : EndsIn isUnrefused (ofPlain (.mapping entries)) ↔ PlainConfounds entries := by
  obtain ⟨items, given, found⟩ | ⟨odd, reason, refused⟩ := ofPlain_cases entries
  · rw [found, endsIn_sections, Item.unrefused_listOfValue, Item.reads_listOfValue, unrefused_iff_strays (keeps_underKey _),
      unrefused_iff_strays (keeps_fenceUnder _), strays_underKey, strays_fenceUnder]
    constructor
    · rintro (first | ⟨read, confounds | ⟨home, confounds⟩⟩)
      · exact .items given first
      · exact .home given read confounds
      · exact .fence given read home confounds
    · rintro (⟨given', first⟩ | ⟨given', read, confounds⟩ | ⟨given', read, home, confounds⟩)
      all_goals
        rw [given] at given'
        cases given'
      · exact .inl first
      · exact .inr ⟨read, .inl confounds⟩
      · exact .inr ⟨read, .inr ⟨home, confounds⟩⟩
  · rw [refused]
    refine iff_of_false (not_endsIn_invalid (fun _ => rfl) _) ?_
    rintro (⟨given, -⟩ | ⟨given, -, -⟩ | ⟨given, -, -, -⟩)
    all_goals exact odd _ given

theorem unrefused_planItems (v : Value) : EndsIn isUnrefused (flatten v >>= planItemsFrom 1) ↔
    Stranded v ∨ ∃ items, flatten v = .ok items ∧ Foremost (Reads? planItem) PlanEntryConfounds items := by
  simp only [endsIn_bind, unrefused_flatten, unrefused_planItemsFrom]

theorem reads_planItems (v : Value) : (∃ read, flatten v >>= planItemsFrom 1 = .ok read) ↔
    ∃ items, flatten v = .ok items ∧ ∀ item ∈ items, Reads? planItem item := by
  simp only [← reads_planItemsFrom]
  constructor
  · rintro ⟨read, h⟩
    obtain ⟨items, flat, h⟩ := bind_ok h
    exact ⟨items, flat, read, h⟩
  · rintro ⟨items, flat, read, h⟩
    exact ⟨read, by rw [flat]; exact h⟩

theorem unrefused_ofPlan : EndsIn isUnrefused (ofPlan (.mapping entries)) ↔ PlanConfounds entries := by
  obtain ⟨mission, given, found⟩ | ⟨odd, refused⟩ := ofPlan_cases entries
  · rw [found, endsIn_sections, unrefused_planItems, reads_planItems, unrefused_plannedHome,
      unrefused_iff_strays (keeps_fenceUnder _), strays_fenceUnder]
    constructor
    · rintro ((stranded | ⟨items, flat, first⟩) | ⟨⟨items, flat, read⟩, confounds | ⟨home, confounds⟩⟩)
      · exact .nesting given stranded
      · exact .items given flat first
      · exact .home given flat read confounds
      · exact .fence given flat read home confounds
    · rintro (⟨given', stranded⟩ | ⟨given', flat, first⟩ | ⟨given', flat, read, confounds⟩ |
        ⟨given', flat, read, home, confounds⟩)
      all_goals
        rw [given] at given'
        cases given'
      · exact .inl (.inl stranded)
      · exact .inl (.inr ⟨_, flat, first⟩)
      · exact .inr ⟨⟨_, flat, read⟩, .inl confounds⟩
      · exact .inr ⟨⟨_, flat, read⟩, .inr ⟨home, confounds⟩⟩
  · rw [refused]
    refine iff_of_false (not_endsIn_invalid (fun _ => rfl) _) ?_
    rintro (⟨given, -⟩ | ⟨given, -, -⟩ | ⟨given, -, -, -⟩ | ⟨given, -, -, -, -⟩)
    all_goals exact odd _ given

theorem unrefused_ofValue (v : Value) : EndsIn isUnrefused (ofValue v) ↔ Confounds v := by
  cases v with
  | mapping entries =>
    change EndsIn isUnrefused (if (Entries.getD entries "fileType" .null).isText "Plan" = true then ofPlan (.mapping entries)
      else ofPlain (.mapping entries)) ↔ _
    split
    next form =>
      rw [unrefused_ofPlan]
      constructor
      · exact .plan form
      · rintro (⟨other, -⟩ | ⟨-, confounds⟩)
        · exact absurd form other
        · exact confounds
    next form =>
      rw [unrefused_ofPlain]
      constructor
      · exact .plain form
      · rintro (⟨-, confounds⟩ | ⟨other, -⟩)
        · exact confounds
        · exact absurd other form
  | _ => exact iff_of_false (not_endsIn_invalid (fun _ => rfl) _) nofun

section

variable {passing : Fault → Prop} (stray : ∀ fault : Fault, fault.isStray = true → passing fault)
  (long : (Value.mapping entries).holdsLong = true → passing .unwritable)

include stray long

theorem confined_ofPlain : Confined passing [.invalid] (ofPlain (.mapping entries)) := by
  obtain ⟨items, given, found⟩ | ⟨-, reason, refused⟩ := ofPlain_cases entries
  · have number (v : Value) := (Value.keeps_toReal v).imp stray
    have whole (v : Value) := (Value.keeps_toWhole v).imp stray
    rw [found]
    apply confined_sections
    · exact Item.confined_listOfValue number whole fun found => long (Value.holdsLong_of_get? given found)
    · exact (keeps_underKey "home").imp stray
    · exact (keeps_fenceUnder "geofence").imp stray
  · rw [refused]
    exact confined_error (.inl rfl)

theorem confined_ofPlan : Confined passing [.invalid] (ofPlan (.mapping entries)) := by
  obtain ⟨mission, given, found⟩ | ⟨-, refused⟩ := ofPlan_cases entries
  · have within {key : String} {default : Value} (short : default.holdsLong = false)
        (found : (mission.getD key default).holdsLong = true) : passing .unwritable :=
      long (Value.holdsLong_of_get? given (Value.holdsLong_of_getD short found))
    rw [found]
    apply confined_sections
    · apply confined_bind (confined_flatten stray (within rfl))
      exact fun items _ => (keeps_planItemsFrom items).imp stray
    · apply confined_optional
      exact confined_refusingWith ((keeps_readPlannedHome _).imp stray) (within rfl)
    · exact (keeps_fenceUnder "geoFence").imp stray
  · rw [refused]
    exact confined_error (.inl rfl)

end

theorem confined_ofValue {passing : Fault → Prop} (stray : ∀ fault : Fault, fault.isStray = true → passing fault)
    (v : Value) (long : v.holdsLong = true → passing .unwritable) : Confined passing [.invalid] (ofValue v) := by
  cases v with
  | mapping entries =>
    change Confined _ _ (if (Entries.getD entries "fileType" .null).isText "Plan" = true then ofPlan (.mapping entries)
      else ofPlain (.mapping entries))
    split
    · exact confined_ofPlan stray long
    · exact confined_ofPlain stray long
  | _ => exact confined_error (.inl rfl)

theorem keeps_ofValue {v : Value} (short : v.holdsLong = false) : Keeps [.invalid] (ofValue v) :=
  confined_ofValue (fun _ => id) v fun long => nomatch short.symm.trans long

/-- A document is read or refused unless it confounds the reader, and then what is wrong with it is one of a number that
is too long to be shown, a number that is too great, one without a whole part, something asked for what it does not have,
and an open ring. -/
theorem read_or_refused_iff (v : Value) :
    (((∃ d, ofValue v = .ok d) ∨ ∃ reason, ofValue v = .error (.invalid reason)) ↔ ¬ Confounds v) ∧
      ∀ fault, ofValue v = .error fault → Confounds v →
        fault = .unwritable ∨ fault = .realOverflow ∨ fault = .wholeOfInfinite ∨
          (∃ kind name, fault = .noOperation kind name) ∨ fault = .openRing := by
  have confined : Confined (fun fault => fault = .unwritable ∨ fault.isStray = true) [.invalid] (ofValue v) :=
    confined_ofValue (fun _ => .inr) v fun _ => .inl rfl
  rw [← unrefused_ofValue]
  cases found : ofValue v with
  | ok d => simp
  | error fault =>
    refine ⟨?_, ?_⟩
    · rw [endsIn_error]
      cases fault <;> simp [isUnrefused]
    · rintro _ ⟨⟩ unrefused
      rcases confined fault found with invalid | rfl | stray
      · obtain ⟨reason, rfl⟩ := invalid_of_isAmong invalid
        exact absurd unrefused (not_endsIn_invalid (fun _ => rfl) reason)
      · exact .inl rfl
      · exact .inr (isStray_cases stray)

theorem ofValue_of_unwritable {item : Entries} (h : Item.ofValue (.mapping item) = .error .unwritable) :
    ofValue (.mapping [("items", .list [.mapping item])]) = .error .unwritable := by
  have listed : Item.listOfValue (.list [.mapping item]) = .error .unwritable := by
    change (Item.atPosition 1 (Item.ofValue _) >>= fun item => pure [item]) = _
    rw [h]
    rfl
  obtain ⟨items, given, found⟩ | ⟨none, -⟩ := ofPlain_cases [("items", .list [.mapping item])]
  · obtain rfl := Value.list.inj (Option.some.inj given)
    change ofPlain _ = _
    rw [found, listed]
    rfl
  · exact absurd rfl (none _)

theorem unwritable_of_isLong {n : Int} (long : Numeral.isLong n = true) :
    Item.ofValue (.mapping [("command", .whole 16), ("relative_alt", .whole n)]) = .error .unwritable := by
  have shown : (Value.whole n).shown Value.literal = .error .unwritable := if_pos long
  change Except.error (refusal _ ((Value.whole n).shown Value.literal)) = _
  rw [shown]
  rfl

theorem ofValue_escapes :
    ofValue (.mapping [("items", .list []), ("geofence", .list [.whole 1])]) = .error (.noOperation "list" "get") ∧
      ofValue (.mapping [("items", .list [.mapping [("command", .real Double.infinity)]])]) =
        .error .wholeOfInfinite ∧
      ofValue (.mapping [("items", .list [.mapping [("command", .whole 16),
        ("relative_alt", .whole (tenTo Numeral.digitLimit))]])]) = .error .unwritable := by
  have long : Numeral.isLong (tenTo Numeral.digitLimit : Nat) = true :=
    Numeral.isLong_iff.mpr (Nat.le_of_eq (Int.natAbs_natCast _).symm)
  exact ⟨rfl, rfl, ofValue_of_unwritable (unwritable_of_isLong long)⟩

end Preflight.Document
