import Preflight.Proofs.Reads
import Preflight.Settings

namespace Preflight

namespace Yaml

def Tree.isNamed (k : Tree) (name : String) : Bool := sameKey k.toValue (.text name)

theorem Tree.isNamed_iff {k : Tree} {name : String} : k.isNamed name = true ↔ k.toValue = .text name := by
  unfold isNamed
  cases k.toValue with
  | text s =>
    change (s == name) = true ↔ _
    simp
  | _ => simp [sameKey, numberKey?]

theorem Tree.isNamed_text {s name : String} : (Tree.text s).isNamed name = true ↔ s = name := by
  rw [isNamed_iff, text, toValue, Value.text.injEq]

end Yaml

namespace Fields

variable {fields : Fields} {key : String}

theorem get?_cons (entry : Yaml.Tree × Yaml.Tree) (rest : Fields) :
    get? (entry :: rest) key = if entry.1.isNamed key then some entry.2 else get? rest key := by
  unfold get?
  rw [List.find?_cons]
  cases h : entry.1.isNamed key with
  | true =>
    have same : Yaml.sameKey entry.1.toValue (.text key) = true := h
    rw [same]
    rfl
  | false =>
    have other : Yaml.sameKey entry.1.toValue (.text key) = false := h
    rw [other]
    rfl

theorem insert_cons (entry : Yaml.Tree × Yaml.Tree) (rest : Fields) (v : Yaml.Tree) : insert (entry :: rest) key v =
    if entry.1.isNamed key then (entry.1, v) :: rest else entry :: insert rest key v := rfl

theorem get?_insert (v : Yaml.Tree) (key' : String) :
    (insert fields key v).get? key' = if key' = key then some v else fields.get? key' := by
  induction fields with
  | nil =>
    change get? [(.text key, v)] key' = _
    rw [get?_cons]
    by_cases h : key' = key
    · rw [if_pos h, if_pos (Yaml.Tree.isNamed_text.mpr h.symm)]
    · rw [if_neg h, if_neg (mt Yaml.Tree.isNamed_text.mp (Ne.symm h))]
  | cons entry rest ih =>
    rw [insert_cons]
    by_cases named : entry.1.isNamed key = true
    · have name := Yaml.Tree.isNamed_iff.mp named
      rw [if_pos named, get?_cons]
      by_cases h : key' = key
      · rw [if_pos h, if_pos (h ▸ named)]
      · have unnamed : ¬ entry.1.isNamed key' = true := by
          rw [Yaml.Tree.isNamed_iff, name]
          rintro ⟨⟩
          exact h rfl
        rw [if_neg h, if_neg unnamed, get?_cons, if_neg unnamed]
    · rw [if_neg named, get?_cons, get?_cons, ih]
      by_cases named' : entry.1.isNamed key' = true
      · have other : key' ≠ key := by
          rintro rfl
          exact named named'
        rw [if_pos named', if_pos named', if_neg other]
      · rw [if_neg named', if_neg named']

end Fields

namespace Settings

variable {s : Settings} {part : Section} {key : String}

theorem fields_withFields (fields : Fields) (part' : Section) :
    (s.withFields fields part).fields part' = if part' = part then fields else s.fields part' := by
  cases part <;> cases part' <;> rfl

def fixedNames : List String := ["__class__", "__weakref__", "__dict__"]

theorem set_eq_ok (free : key ∉ fixedNames) (v : Yaml.Tree) :
    ∃ s', s.set part key v = .ok s' ∧
      ∀ part' key', s'.find? part' key' = if part' = part ∧ key' = key then some v.toValue else s.find? part' key' := by
  refine ⟨s.withFields (Fields.insert (s.fields part) key v) part, ?_, ?_⟩
  · unfold set
    split
    all_goals first | rfl | exact absurd (by decide) free
  · intro part' key'
    unfold find?
    rw [fields_withFields]
    by_cases hpart : part' = part
    · subst hpart
      rw [if_pos rfl, Fields.get?_insert]
      by_cases hkey : key' = key
      · rw [if_pos hkey, if_pos ⟨rfl, hkey⟩]
        rfl
      · rw [if_neg hkey, if_neg fun h => hkey h.2]
    · rw [if_neg hpart, if_neg fun h => hpart h.1]

end Settings

end Preflight
