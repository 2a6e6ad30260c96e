import Preflight.Proofs.Settings.Fields

namespace Preflight

namespace Settings

variable {s : Settings} {part : Section} {key : String}

theorem has_eq (ordinary : key ∉ sharedNames) : s.has part key = (s.find? part key).isSome := by
  have unshared : sharedNames.contains key = false := by simpa using ordinary
  rw [has, unshared, Bool.or_false]

theorem free_of_ordinary (ordinary : key ∉ sharedNames) : key ∉ fixedNames := by
  have shared : fixedNames ⊆ sharedNames := by decide
  exact fun h => ordinary (shared h)

/-! The file -/

structure FileEntry where
  part : Section
  key : Yaml.Tree
  value : Yaml.Tree

namespace FileEntry

def ofSection : Yaml.Tree × Yaml.Tree → List FileEntry
  | (.leaf _ (.text name), .mapping _ fields) =>
    match Section.ofName? name with
    | some part => fields.map fun entry => ⟨part, entry.1, entry.2⟩
    | none => []
  | _ => []

def apply (s : Settings) (e : FileEntry) : Except Fault Settings := setEntry e.part s (e.key, e.value)

def isFor (part : Section) (key : String) (e : FileEntry) : Bool := e.part == part && e.key.isNamed key

theorem isFor_iff {e : FileEntry} : e.isFor part key = true ↔ e.part = part ∧ e.key.toValue = .text key := by
  rw [isFor, Bool.and_eq_true, beq_iff_eq, Yaml.Tree.isNamed_iff]

def IsOrdinary (e : FileEntry) : Prop := ∃ key, e.key.toValue = .text key ∧ key ∉ sharedNames

theorem apply_eq_ok {e : FileEntry} (ordinary : e.IsOrdinary) (s : Settings) : ∃ s', e.apply s = .ok s' ∧
    ∀ part key,
      s'.find? part key = (s.find? part key).map fun v => if e.isFor part key then e.value.toValue else v := by
  obtain ⟨name, named, plain⟩ := ordinary
  have isFor (part : Section) (key : String) : e.isFor part key = true ↔ part = e.part ∧ key = name := by
    rw [isFor_iff, named, Value.text.injEq, eq_comm, @eq_comm _ name]
  unfold apply setEntry
  dsimp only
  rw [named]
  dsimp only
  rw [has_eq plain]
  cases there : (s.find? e.part name).isSome with
  | true =>
    obtain ⟨v, found⟩ := Option.isSome_iff_exists.mp there
    obtain ⟨s', done, finds⟩ := set_eq_ok (free_of_ordinary plain) e.value
    refine ⟨s', done, ?_⟩
    intro part key
    rw [finds]
    by_cases h : part = e.part ∧ key = name
    · obtain ⟨rfl, rfl⟩ := h
      rw [if_pos ⟨rfl, rfl⟩, found, Option.map_some, if_pos ((isFor _ _).mpr ⟨rfl, rfl⟩)]
    · have other : ¬ e.isFor part key = true := mt (isFor part key).mp h
      rw [if_neg h]
      simp [other]
  | false =>
    refine ⟨s, rfl, ?_⟩
    intro part key
    by_cases h : e.isFor part key = true
    · obtain ⟨rfl, rfl⟩ := (isFor part key).mp h
      have absent : s.find? e.part key = none := by simpa using there
      rw [absent]
      rfl
    · simp [h]

def written? (entries : List FileEntry) (part : Section) (key : String) : Option Value :=
  (entries.reverse.find? (·.isFor part key)).map (·.value.toValue)

theorem written?_cons (e : FileEntry) (rest : List FileEntry) (part : Section) (key : String) :
    written? (e :: rest) part key =
      (written? rest part key).or (if e.isFor part key then some e.value.toValue else none) := by
  unfold written?
  rw [List.reverse_cons, List.find?_append, Option.map_or]
  cases h : e.isFor part key <;> simp [h]

theorem applyAll_eq_ok {entries : List FileEntry} (ordinary : ∀ e ∈ entries, e.IsOrdinary) (s : Settings) :
    ∃ s', entries.foldlM apply s = .ok s' ∧
      ∀ part key, s'.find? part key = (s.find? part key).map fun v => (written? entries part key).getD v := by
  induction entries generalizing s with
  | nil =>
    refine ⟨s, rfl, ?_⟩
    intro part key
    cases s.find? part key <;> rfl
  | cons e rest ih =>
    rw [List.forall_mem_cons] at ordinary
    obtain ⟨s₁, first, finds⟩ := apply_eq_ok ordinary.1 s
    obtain ⟨s', later, finds'⟩ := ih ordinary.2 s₁
    refine ⟨s', ?_, ?_⟩
    · rw [List.foldlM_cons, first]
      exact later
    · intro part key
      rw [finds', finds, Option.map_map, written?_cons]
      apply congrArg (Option.map · _)
      funext v
      cases written? rest part key <;> cases e.isFor part key <;> simp

end FileEntry

theorem setSection_eq (s : Settings) (entry : Yaml.Tree × Yaml.Tree) :
    s.setSection entry = (FileEntry.ofSection entry).foldlM FileEntry.apply s := by
  obtain ⟨key, value⟩ := entry
  cases key with
  | leaf mark v =>
    cases v with
    | text name =>
      cases value with
      | mapping mark fields =>
        unfold setSection FileEntry.ofSection
        dsimp only
        cases Section.ofName? name with
        | some part =>
          dsimp only
          rw [List.foldlM_map]
          rfl
        | none => rfl
      | _ => rfl
    | _ => rfl
  | _ => rfl

def FileEntry.ofDocument? : Yaml.Tree → Option (List FileEntry)
  | .mapping _ sections => some (sections.flatMap ofSection)
  | tree => if tree.isGiven then none else some []

theorem update_mapping (s : Settings) (mark : Option Nat) (sections : List (Yaml.Tree × Yaml.Tree)) :
    s.update (.mapping mark sections) = (sections.flatMap FileEntry.ofSection).foldlM FileEntry.apply s := by
  change sections.foldlM setSection s = _
  induction sections generalizing s with
  | nil => rfl
  | cons entry rest ih =>
    rw [List.foldlM_cons, List.flatMap_cons, List.foldlM_append, setSection_eq]
    apply congrArg
    funext s
    exact ih s

theorem taken_of_ofDocument? {tree : Yaml.Tree} {entries : List FileEntry}
    (h : FileEntry.ofDocument? tree = some entries) (s : Settings) :
    (if tree.isGiven then s.update tree else .ok s) = entries.foldlM FileEntry.apply s := by
  have blank (given : (if tree.isGiven then none else some []) = some entries) :
      (if tree.isGiven then s.update tree else .ok s) = entries.foldlM FileEntry.apply s := by
    cases kept : tree.isGiven with
    | true =>
      rw [kept] at given
      cases given
    | false =>
      rw [kept] at given
      cases given
      rfl
  cases tree with
  | mapping mark sections =>
    cases h
    rw [update_mapping]
    -- A mapping without entries is not looked at, and would give nothing.
    cases sections <;> rfl
  | _ => exact blank h

/-! The variables -/

def addresses (part : Section) (key : String) (assignment : String × String) : Bool :=
  decide (target? assignment.1 = some (part, key))

theorem addresses_iff {assignment : String × String} :
    addresses part key assignment = true ↔ target? assignment.1 = some (part, key) := decide_eq_true_iff

def given? (assignments : List (String × String)) (part : Section) (key : String) : Option String :=
  (assignments.find? (addresses part key)).map (·.2)

def overlaid (s : Settings) (assignments : List (String × String)) (part : Section) (key : String) :
    Except Fault (Option Value) :=
  match s.find? part key, given? assignments part key with
  | some v, some text => some <$> convert key v text
  | found, _ => .ok found

def IsOrdinaryVariable (assignment : String × String) : Prop :=
  ∀ part key, target? assignment.1 = some (part, key) → key ∉ sharedNames

theorem toValue_of_convert {v w : Value} {text : String} (h : convert key v text = .ok w) :
    (Yaml.Tree.ofValue w).toValue = w := by
  unfold convert at h
  split at h
  · cases h
    rfl
  · obtain ⟨n, -, rfl⟩ := Fault.map_ok h
    rfl
  · obtain ⟨x, -, rfl⟩ := Fault.map_ok h
    rfl
  · split at h
    · obtain ⟨x, -, rfl⟩ := Fault.map_ok h
      rfl
    · cases h
      rfl
  · cases h
    rfl

section

variable {assignment : String × String} {assignments : List (String × String)}

theorem setVariable_eq {v : Value} (aim : target? assignment.1 = some (part, key)) (found : s.find? part key = some v) :
    s.setVariable assignment = convert key v assignment.2 >>= fun w => s.set part key (.ofValue w) := by
  have held : s.has part key = true := by
    rw [has, found]
    rfl
  have current : s.get part key = v := by
    rw [get, found]
    rfl
  rw [setVariable, aim]
  dsimp only
  rw [if_pos held, current]

inductive Effect (s : Settings) (assignment : String × String) : Except Fault Settings → Prop
  | aimless (h : ∀ part key, addresses part key assignment = true → s.find? part key = none) :
      Effect s assignment (.ok s)
  | lost {part : Section} {key : String} {v : Value} {fault : Fault} (aim : target? assignment.1 = some (part, key))
      (found : s.find? part key = some v) (unconverted : convert key v assignment.2 = .error fault) :
      Effect s assignment (.error fault)
  | given {part : Section} {key : String} {v w : Value} {s' : Settings}
      (aim : target? assignment.1 = some (part, key)) (found : s.find? part key = some v)
      (converted : convert key v assignment.2 = .ok w)
      (finds : ∀ part' key', s'.find? part' key' = if part' = part ∧ key' = key then some w else s.find? part' key') :
      Effect s assignment (.ok s')

theorem effect_setVariable (ordinary : IsOrdinaryVariable assignment) (s : Settings) :
    Effect s assignment (s.setVariable assignment) := by
  cases aim : target? assignment.1 with
  | none =>
    have kept : s.setVariable assignment = .ok s := by rw [setVariable, aim]
    rw [kept]
    apply Effect.aimless
    intro part key addressed
    rw [addresses_iff, aim] at addressed
    cases addressed
  | some target =>
    obtain ⟨part, key⟩ := target
    have plain := ordinary part key aim
    cases found : s.find? part key with
    | none =>
      have unheld : s.has part key = false := by
        rw [has_eq plain, found]
        rfl
      have kept : s.setVariable assignment = .ok s := by
        rw [setVariable, aim]
        dsimp only
        rw [unheld, if_neg Bool.false_ne_true]
      rw [kept]
      apply Effect.aimless
      intro part' key' addressed
      rw [addresses_iff, aim] at addressed
      cases addressed
      exact found
    | some v =>
      rw [setVariable_eq aim found]
      cases converted : convert key v assignment.2 with
      | error fault => exact .lost aim found converted
      | ok w =>
        obtain ⟨s', done, finds⟩ := @set_eq_ok s part key (free_of_ordinary plain) (.ofValue w)
        rw [toValue_of_convert converted] at finds
        rw [Fault.ok_bind, done]
        exact .given aim found converted finds

theorem given?_cons : given? (assignment :: assignments) part key =
    if addresses part key assignment then some assignment.2 else given? assignments part key := by
  unfold given?
  rw [List.find?_cons]
  cases addresses part key assignment <;> rfl

theorem overlaid_of_none (absent : s.find? part key = none) : overlaid s assignments part key = .ok none := by
  rw [overlaid, absent]

theorem overlaid_cons_of_other (h : addresses part key assignment = false) :
    overlaid s (assignment :: assignments) part key = overlaid s assignments part key := by
  rw [overlaid, overlaid, given?_cons, h, if_neg Bool.false_ne_true]

theorem overlaid_congr {s' : Settings} (h : s'.find? part key = s.find? part key) :
    overlaid s' assignments part key = overlaid s assignments part key := by
  rw [overlaid, overlaid, h]

theorem given?_eq_none (addressed : addresses part key assignment = true)
    (once : ((assignment :: assignments).filter (addresses part key)).length ≤ 1) :
    given? assignments part key = none := by
  rw [List.filter_cons_of_pos addressed, List.length_cons] at once
  have none : assignments.filter (addresses part key) = [] := List.length_eq_zero_iff.mp (by omega)
  rw [given?, List.find?_eq_none.mpr (List.filter_eq_nil_iff.mp none)]
  rfl

theorem overlaid_cons_of_given {v w : Value} {s' : Settings} (aim : target? assignment.1 = some (part, key))
    (found : s.find? part key = some v) (converted : convert key v assignment.2 = .ok w)
    (finds : ∀ part' key', s'.find? part' key' = if part' = part ∧ key' = key then some w else s.find? part' key')
    (alone : given? assignments part key = none) (part' : Section) (key' : String) :
    overlaid s' assignments part' key' = overlaid s (assignment :: assignments) part' key' := by
  by_cases h : part' = part ∧ key' = key
  · obtain ⟨rfl, rfl⟩ := h
    rw [overlaid, finds, if_pos ⟨rfl, rfl⟩, alone, overlaid, found, given?_cons, if_pos (addresses_iff.mpr aim)]
    dsimp only
    rw [converted]
    rfl
  · have other : addresses part' key' assignment = false := by
      rw [← Bool.not_eq_true, addresses_iff, aim]
      rintro ⟨⟩
      exact h ⟨rfl, rfl⟩
    rw [overlaid_cons_of_other other]
    exact overlaid_congr (by rw [finds, if_neg h])

inductive Overlays (s : Settings) (assignments : List (String × String)) : Except Fault Settings → Prop
  | done {s' : Settings} (h : ∀ part key, overlaid s assignments part key = .ok (s'.find? part key)) :
      Overlays s assignments (.ok s')
  | lost {part : Section} {key : String} {fault : Fault} (h : overlaid s assignments part key = .error fault) :
      Overlays s assignments (.error fault)

theorem Overlays.congr {s' : Settings} {assignments' : List (String × String)} {result : Except Fault Settings}
    (h : Overlays s assignments result)
    (same : ∀ part key, overlaid s assignments part key = overlaid s' assignments' part key) :
    Overlays s' assignments' result := by
  cases h with
  | done h => exact .done fun part key => (same part key).symm.trans (h part key)
  | lost h => exact .lost ((same _ _).symm.trans h)

theorem overlays_setVariables (ordinary : ∀ assignment ∈ assignments, IsOrdinaryVariable assignment) (s : Settings)
    (once : ∀ part key, (s.find? part key).isSome → (assignments.filter (addresses part key)).length ≤ 1) :
    Overlays s assignments (s.setVariables assignments) := by
  unfold setVariables
  -- On the variables, for all settings: the rest is set over what the first one leaves.
  induction assignments generalizing s with
  | nil =>
    apply Overlays.done
    intro part key
    unfold overlaid given?
    cases s.find? part key <;> rfl
  | cons assignment rest ih =>
    rw [List.forall_mem_cons] at ordinary
    rw [List.foldlM_cons]
    have fewer (part : Section) (key : String) (there : (s.find? part key).isSome) :
        (rest.filter (addresses part key)).length ≤ 1 :=
      Nat.le_trans ((List.sublist_cons_self assignment rest).filter _).length_le (once part key there)
    generalize first : s.setVariable assignment = result
    have effect := first ▸ effect_setVariable ordinary.1 s
    cases effect with
    | aimless h =>
      refine (ih ordinary.2 s fewer).congr fun part key => ?_
      cases addressed : addresses part key assignment with
      | true => rw [overlaid_of_none (h part key addressed), overlaid_of_none (h part key addressed)]
      | false => rw [overlaid_cons_of_other addressed]
    | @lost part key v fault aim found unconverted =>
      refine @Overlays.lost _ _ part key fault ?_
      rw [overlaid, found, given?_cons, if_pos (addresses_iff.mpr aim)]
      dsimp only
      rw [unconverted]
      rfl
    | @given part key v w s₁ aim found converted finds =>
      have alone := given?_eq_none (addresses_iff.mpr aim) (once part key (by rw [found]; rfl))
      refine (ih ordinary.2 s₁ fun part' key' there => fewer part' key' ?_).congr
        (overlaid_cons_of_given aim found converted finds alone)
      rw [finds] at there
      split at there
      next h => rw [h.1, h.2, found]; rfl
      next => exact there

end

end Settings

end Preflight
