import Preflight.Pass
import Preflight.Proofs.Reads

namespace Preflight

open Template

namespace Template

variable {args : List Value} {fuel : Nat} {numbering numbering' : Numbering} {cs rest : List Char}

def fixedSpec (places : Nat) : Spec := { align := .right, precision := some places, form := some 'f' }

theorem formatReal_fixed {places : Nat} (few : places ≤ largestPrecision) (kind : String) (x : Float) :
    ∃ s, formatReal (fixedSpec places) kind x = .ok s := by
  have narrow : ¬ largestPrecision < places := Nat.not_lt.mpr few
  have precise : (fixedSpec places).precision.any (largestPrecision < ·) = false := by simp [fixedSpec, narrow]
  unfold formatReal
  rw [precise]
  exact ⟨_, rfl⟩

def suits (isReal : Bool) (spec : List Char) : Bool :=
  spec.isEmpty || (isReal && (spec == ['.', '1', 'f'] || spec == ['.', '3', 'f']))

def isReal : Value → Bool
  | .real _ => true
  | _ => false

theorem format_of_suits {v : Value} {spec : List Char} (h : suits (isReal v) spec = true) :
    ∃ s, format v spec = .ok s := by
  cases spec with
  | nil => exact ⟨_, rfl⟩
  | cons c spec =>
    cases v with
    | real x =>
      have known : c :: spec = ['.', '1', 'f'] ∨ c :: spec = ['.', '3', 'f'] := by simpa [suits, isReal] using h
      rcases known with known | known
      · rw [known]
        exact @formatReal_fixed 1 (by decide) "float" x
      · rw [known]
        exact @formatReal_fixed 3 (by decide) "float" x
    | _ => simp [suits, isReal] at h

def index? : List Char → Option Nat
  | ['0'] => some 0
  | ['1'] => some 1
  | ['2'] => some 2
  | ['3'] => some 3
  | _ => none

theorem numberIn?_of_index {name : List Char} {index : Nat} (h : index? name = some index) :
    name.takeWhile (fun c => c != '.' && c != '[') = name ∧ Subject.numberIn? name = .ok (some index) ∧
      name.isEmpty = false := by
  unfold index? at h
  split at h
  all_goals
    cases h
    try exact ⟨rfl, rfl, rfl⟩

theorem lookup_of_index {name : List Char} {index : Nat} {v : Value} (h : index? name = some index)
    (given : args[index]? = some v) (numbered : ∀ next, numbering ≠ .counted next) :
    lookup args numbering name = .ok (.value v, .named) := by
  obtain ⟨whole, number, filled⟩ := numberIn?_of_index h
  have ended (subject : Subject) (depth : Nat) : subject.follow depth [] = .ok subject := by cases depth <;> rfl
  unfold lookup
  dsimp only
  rw [whole, number, filled, List.drop_length, Fault.ok_bind]
  cases numbering with
  | counted next => exact absurd rfl (numbered next)
  | _ =>
    dsimp only
    rw [given]
    change (Subject.follow name.length (.value v) [] >>= _) = _
    rw [ended]
    rfl

/-- Whether a template can be filled with values of which it is only known whether they are real numbers. Its places
have numbers for names. The fuel is the length of the template. -/
def isFilled (kinds : List Bool) : Nat → List Char → Bool
  | 0, _ => true
  | _ + 1, [] => true
  | fuel + 1, c :: rest =>
    match nextPiece c rest with
    | .ok (.literal _, rest) => isFilled kinds fuel rest
    | .ok (.place name none spec, rest) =>
      match (index? name).bind (kinds[·]?) with
      | some isReal => suits isReal spec && !spec.contains openBrace && isFilled kinds fuel rest
      | none => false
    | _ => false

theorem fillFrom_of_isFilled (expand : Numbering → List Char → Except Fault Filled)
    (h : isFilled (args.map isReal) fuel cs = true) (numbered : ∀ next, numbering ≠ .counted next) :
    ∃ filled, fillFrom expand args fuel numbering cs = .ok filled := by
  induction fuel generalizing cs numbering with
  | zero => exact ⟨_, rfl⟩
  | succ fuel ih =>
    cases cs with
    | nil => exact ⟨_, rfl⟩
    | cons c rest =>
      unfold isFilled at h
      unfold fillFrom
      split at h
      next c' rest' piece =>
        obtain ⟨⟨text, after⟩, filled⟩ := ih h numbered
        rw [piece, Fault.ok_bind]
        dsimp only
        rw [filled]
        exact ⟨_, rfl⟩
      next name spec rest' piece =>
        split at h
        next real known =>
          obtain ⟨index, named, given⟩ := Option.bind_eq_some_iff.mp known
          rw [List.getElem?_map] at given
          obtain ⟨v, found, rfl⟩ := Option.map_eq_some_iff.mp given
          rw [Bool.and_eq_true, Bool.and_eq_true, Bool.not_eq_true'] at h
          obtain ⟨s, formed⟩ := format_of_suits h.1.1
          obtain ⟨⟨text, after⟩, filled⟩ := @ih .named _ h.2 nofun
          rw [piece, Fault.ok_bind]
          dsimp only
          rw [lookup_of_index named found numbered, Fault.ok_bind]
          dsimp only
          rw [h.1.2, pure_bind, if_neg Bool.false_ne_true, pure_bind]
          change ∃ filled, (format v spec >>= _) = .ok filled
          rw [formed, Fault.ok_bind, filled]
          exact ⟨_, rfl⟩
        next => cases h
      next => cases h

theorem render_of_isFilled {template : String} (letters : template.toList = cs)
    (h : isFilled (args.map isReal) cs.length cs = true) : ∃ text, render template args = .ok text := by
  obtain ⟨filled, h⟩ := @fillFrom_of_isFilled args _ .undecided cs (fill args 1) h nofun
  refine ⟨String.ofList filled.1, ?_⟩
  unfold render
  rw [letters, fill, h]
  rfl

end Template

theorem toList_append_eq {s t : String} {letters letters' : List Char} (hs : s.toList = letters)
    (ht : t.toList = letters') : (s ++ t).toList = letters ++ letters' := by
  rw [String.toList_append, hs, ht]

theorem Finding.message_eq_ok (f : Finding) : ∃ text, f.diagnostic.message = .ok text := by
  cases f with
  | storageFailure reading => cases reading <;> exact render_of_isFilled String.toList_ofList (by decide +kernel)
  | startsWithLanding waypoint => cases waypoint <;> exact render_of_isFilled String.toList_ofList (by decide +kernel)
  | unsupportedApproach index =>
    refine render_of_isFilled (toList_append_eq String.toList_ofList String.toList_ofList) ?_
    simp only [diagnostic, args, List.map_nil]
    decide +kernel
  | glideSlopeTooSteep index degrees tenths altitude distance =>
    refine render_of_isFilled (toList_append_eq (toList_append_eq String.toList_ofList String.toList_ofList)
      String.toList_ofList) ?_
    simp only [diagnostic, args, List.map_cons, List.map_nil, isReal]
    decide +kernel
  | _ =>
    refine render_of_isFilled String.toList_ofList ?_
    simp only [diagnostic, args, List.map_cons, List.map_nil, isReal]
    decide +kernel

theorem Verdict.toValue_ofOutcomes (outcomes : List Outcome) :
    ∃ document, (ofOutcomes outcomes).toValue = .ok document := by
  have told (findings : List Finding) :
      ∃ values, (findings.map Finding.diagnostic).mapM Diagnostic.toValue = .ok values := by
    induction findings with
    | nil => exact ⟨[], rfl⟩
    | cons f rest ih =>
      obtain ⟨text, worded⟩ := f.message_eq_ok
      obtain ⟨values, told⟩ := ih
      have first : ∃ value, f.diagnostic.toValue = .ok value := by
        unfold Diagnostic.toValue
        rw [worded]
        exact ⟨_, rfl⟩
      obtain ⟨value, first⟩ := first
      refine ⟨value :: values, ?_⟩
      rw [List.map_cons, List.mapM_cons, first, told]
      rfl
  obtain ⟨values, told⟩ := told (outcomes.flatMap (·.findings))
  unfold toValue ofOutcomes
  rw [told]
  exact ⟨_, rfl⟩

end Preflight
