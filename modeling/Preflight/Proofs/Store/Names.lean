import Preflight.Proofs.Files.Directories
import Preflight.Store.Directory

namespace Preflight

open Preflight.Path FileTree

theorem utf8ByteSize_of_small {cs : List Char} (h : ∀ c ∈ cs, c.utf8Size = 1) :
    (String.ofList cs).utf8ByteSize = cs.length := by
  induction cs with
  | nil => simp
  | cons c rest ih =>
    rw [List.forall_mem_cons] at h
    rw [String.ofList_cons, String.utf8ByteSize_append, String.utf8ByteSize_singleton, h.1, ih h.2, List.length_cons]
    omega

namespace Ids

def letters : List Char := "0123456789abcdefABCDEF-".toList

structure IsIdentifier (id : String) : Prop where
  length : id.toList.length = 36
  letters : ∀ c ∈ id.toList, c ∈ letters

variable {id other : String}

theorem isIdentifier_iff : IsIdentifier id ↔ id.toList.length = 36 ∧ id.toList.all letters.contains = true := by
  rw [List.all_eq_true]
  constructor
  · exact fun h => ⟨h.length, fun c hc => List.contains_iff_mem.mpr (h.letters c hc)⟩
  · exact fun h => ⟨h.1, fun c hc => List.contains_iff_mem.mp (h.2 c hc)⟩

instance (id : String) : Decidable (IsIdentifier id) := decidable_of_iff _ isIdentifier_iff.symm

theorem utf8ByteSize_identifier (h : IsIdentifier id) : id.utf8ByteSize = 36 := by
  have all : letters.all (·.utf8Size == 1) = true := by decide
  have small : ∀ c ∈ letters, c.utf8Size = 1 := by simpa using all
  have size := utf8ByteSize_of_small fun c hc => small c (h.letters c hc)
  rwa [String.ofList_toList, h.length] at size

theorem toList_file (id : String) : (id ++ ".json").toList = id.toList ++ ['.', 'j', 's', 'o', 'n'] := by
  rw [String.toList_append]
  rfl

theorem file_injective (h : id ++ ".json" = other ++ ".json") : id = other := by
  have same := congrArg String.toList h
  rw [toList_file, toList_file] at same
  exact String.toList_inj.mp (List.append_cancel_right same)

theorem file_ne (id : String) {name : String} (hname : name.toList.length < 5) : id ++ ".json" ≠ name := by
  intro same
  have length := congrArg (·.toList.length) same
  simp only [toList_file, List.length_append, List.length_cons, List.length_nil] at length
  omega

section

variable (hletters : ∀ c ∈ id.toList, c ∈ letters)

include hletters

theorem not_mem_file {c : Char} (hc : c ∉ letters) (hc' : c ∉ ['.', 'j', 's', 'o', 'n']) :
    c ∉ (id ++ ".json").toList := by
  rw [toList_file, List.mem_append, not_or]
  exact ⟨fun hmem => hc (hletters c hmem), hc'⟩

theorem isName_file : IsName (id ++ ".json") where
  slash := not_mem_file hletters (by decide) (by decide)
  kept := ⟨file_ne id (by decide), file_ne id (by decide)⟩

end

theorem utf8ByteSize_file (h : IsIdentifier id) : (id ++ ".json").utf8ByteSize = 41 := by
  have ending : ".json".utf8ByteSize = 5 := rfl
  rw [String.utf8ByteSize_append, ending, utf8ByteSize_identifier h]

theorem isFileName_file (h : IsIdentifier id) : IsFileName (id ++ ".json") where
  toIsName := isName_file h.letters
  octet := not_mem_file h.letters (by decide) (by decide)
  down := file_ne id (by decide)
  short := by
    rw [utf8ByteSize_file h, longestName]
    decide

theorem letters_toDigits {c : Char} {n : Nat} (h : c ∈ Nat.toDigits 16 n) : c ∈ letters := by
  have digit : ∀ n < 16, n.digitChar ∈ letters := by decide
  induction n using Nat.strongRecOn with
  | _ n ih =>
    rw [Nat.toDigits_eq_if (by decide)] at h
    split at h
    next small => exact List.mem_singleton.mp h ▸ digit n small
    next great =>
      rcases List.mem_append.mp h with h | h
      · exact ih (n / 16) (by omega) h
      · exact List.mem_singleton.mp h ▸ digit (n % 16) (by omega)

theorem letters_ofNumber (n : Nat) : ∀ c ∈ (ofNumber n).toList, c ∈ letters := by
  have digits : ∀ c ∈ Text.hexDigits 32 n, c ∈ letters := by
    intro c hc
    rcases List.mem_append.mp hc with hc | hc
    · rw [List.eq_of_mem_replicate hc]
      decide
    · exact letters_toDigits hc
  intro c hc
  by_cases dash : c = '-'
  · rw [dash]
    decide
  · rw [ofNumber, String.toList_intercalate] at hc
    obtain ⟨part, hpart, hc⟩ := (mem_intercalate dash _).mp hc
    apply digits c
    simp only [groups, List.map_cons, List.map_nil, List.mem_cons, List.not_mem_nil, or_false,
      String.toList_ofList] at hpart
    rcases hpart with rfl | rfl | rfl | rfl | rfl
    · exact List.mem_of_mem_take hc
    · exact List.mem_of_mem_drop (List.mem_of_mem_take hc)
    · exact List.mem_of_mem_drop (List.mem_of_mem_take hc)
    · exact List.mem_of_mem_drop (List.mem_of_mem_take hc)
    · exact List.mem_of_mem_drop hc

theorem letters_next (ids : Ids) : ∀ c ∈ ids.next.1.toList, c ∈ letters := letters_ofNumber (ids.taken + 1)

theorem ofNumber_ne (n : Nat) : ofNumber n ≠ "" := by
  intro empty
  have letters := congrArg String.toList empty
  rw [ofNumber, String.toList_intercalate] at letters
  simp [groups, List.intercalate_cons_cons] at letters

theorem stem_ending {name : String} (given : name ≠ "") : stem (name ++ ".json") = name := by
  have reversed : (name ++ ".json").toList.reverse = ['n', 'o', 's', 'j'] ++ '.' :: name.toList.reverse := by
    rw [toList_file, List.reverse_append]
    rfl
  have suffix : ((name ++ ".json").toList.reverse).takeWhile (· != '.') = ['n', 'o', 's', 'j'] := by
    rw [reversed]
    rfl
  have filled : name.toList.reverse.isEmpty = false := by
    rw [List.isEmpty_reverse, List.isEmpty_eq_false_iff]
    exact fun empty => given (String.toList_eq_nil_iff.mp empty)
  unfold stem
  dsimp only
  rw [suffix, reversed]
  change (if (name.toList.reverse.isEmpty || false) = true then _ else String.ofList name.toList.reverse.reverse) = name
  rw [filled, List.reverse_reverse, String.ofList_toList]
  rfl

theorem IsIdentifier.ne_short (h : IsIdentifier id) {name : String} (hname : name.toList.length < 36) : id ≠ name := by
  rintro rfl
  exact absurd h.length (by omega)

theorem stem_file (h : IsIdentifier id) : stem (id ++ ".json") = id := stem_ending (h.ne_short (by decide))

theorem endsWith_file (id : String) : (id ++ ".json").endsWith ".json" = true := by
  rw [String.endsWith_eq_endsWith_toSlice, String.Slice.endsWith_string_iff]
  have whole : (id ++ ".json").toSlice.copy.toList = id.toList ++ ".json".toList := by simp
  rw [whole]
  exact List.suffix_append _ _

theorem stem_eq_iff (h : IsIdentifier id) {name : String} :
    name.endsWith ".json" = true ∧ stem name = id ↔ name = id ++ ".json" := by
  constructor
  · rintro ⟨ends, stemmed⟩
    rw [String.endsWith_eq_endsWith_toSlice, String.Slice.endsWith_string_iff] at ends
    obtain ⟨before, hbefore⟩ : ".json".toList <:+ name.toList := by simpa using ends
    have whole : name = String.ofList before ++ ".json" := by
      rw [← String.toList_inj, toList_file, String.toList_ofList, ← hbefore]
      rfl
    rw [whole] at stemmed ⊢
    by_cases empty : String.ofList before = ""
    · rw [empty] at stemmed
      exact absurd stemmed.symm (h.ne_short (by decide))
    · rw [stem_ending empty] at stemmed
      rw [stemmed]
  · rintro rfl
    exact ⟨endsWith_file id, stem_file h⟩

end Ids

end Preflight
