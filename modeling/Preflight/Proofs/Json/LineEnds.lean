import Preflight.Proofs.Json.Grammar
import Preflight.Proofs.Text.Utf8

namespace Preflight.Json

open Utf8 (unifyLineEnds unifyLineEnds_eq_append unifyLineEnds_eq_cons eq_of_unifyLineEnds mem_unifyLineEnds)

variable {cs ds : List Char}

theorem ne_feed_of_bound {c first : Char} (least : first ≤ c) (h : ¬ first ≤ '\n') : c ≠ '\n' := by
  rintro rfl
  exact h least

theorem not_feed_of_digits (h : AreDigits cs) : '\n' ∉ cs := fun member =>
  ne_feed_of_bound (h _ member).1 (by decide) rfl

theorem not_feed_of_hexDigit {c : Char} (h : IsHexDigit c) : c ≠ '\n' := by
  rcases h with h | h | h
  all_goals exact ne_feed_of_bound h.1 (by decide)

theorem not_feed_of_letters (h : AreLetters cs) : '\n' ∉ cs := by
  induction h with
  | nil => exact List.not_mem_nil
  | plain apart printed _ ih =>
    rw [List.mem_cons, not_or]
    refine ⟨?_, ih⟩
    rintro rfl
    exact absurd printed (by decide)
  | short known _ ih =>
    rw [List.mem_cons, List.mem_cons, not_or, not_or]
    refine ⟨by decide, ?_, ih⟩
    rintro rfl
    exact absurd known (by decide)
  | codePoint four hex _ ih =>
    simp only [List.cons_append, List.mem_cons, List.mem_append, not_or]
    exact ⟨by decide, by decide, fun member => not_feed_of_hexDigit (hex _ member) rfl, ih⟩

theorem not_feed_of_string (h : IsString cs) : '\n' ∉ cs := by
  obtain ⟨letters⟩ := h
  simp [not_feed_of_letters letters]

theorem not_feed_of_whole (h : IsWhole cs) : '\n' ∉ cs := by
  cases h with
  | zero => decide
  | digits _ all => exact not_feed_of_digits all

theorem not_feed_of_fraction (h : IsFraction cs) : '\n' ∉ cs := by
  cases h with
  | none => exact List.not_mem_nil
  | digits _ all => exact List.not_mem_cons_of_ne_of_not_mem (by decide) (not_feed_of_digits all)

theorem not_feed_of_sign {sign : List Char} (h : sign ∈ [[], ['+'], ['-']]) : '\n' ∉ sign := by
  have all : ∀ sign ∈ [[], ['+'], ['-']], '\n' ∉ sign := by decide
  exact all sign h

theorem not_feed_of_exponent (h : IsExponent cs) : '\n' ∉ cs := by
  cases h with
  | none => exact List.not_mem_nil
  | digits mark signed _ all =>
    simp only [List.mem_cons, List.mem_append, List.cons_append, not_or]
    refine ⟨?_, not_feed_of_sign signed, not_feed_of_digits all⟩
    rcases mark with rfl | rfl
    all_goals decide

theorem not_feed_of_number (h : IsNumber cs) : '\n' ∉ cs := by
  obtain ⟨signed, isWhole, isFraction, isExponent⟩ := h
  have signs : [[], ['-']] ⊆ [[], ['+'], ['-']] := by decide
  simp only [List.mem_append, not_or]
  exact ⟨⟨⟨not_feed_of_sign (signs signed), not_feed_of_whole isWhole⟩, not_feed_of_fraction isFraction⟩,
    not_feed_of_exponent isExponent⟩

theorem not_feed_of_word (h : IsWord cs) : '\n' ∉ cs := by
  have words : ∀ w ∈ words.map (·.1.toList), '\n' ∉ w := by decide
  exact words cs h

theorem areBlanks_of_unified (h : AreBlanks (unifyLineEnds cs)) : AreBlanks cs := by
  intro c hc
  rcases mem_unifyLineEnds hc with member | rfl | rfl
  · exact h c member
  · decide
  · decide

theorem enclosed_of_unified {opening closing : Char} {inner : List Char} (hopening : opening ≠ '\n')
    (hclosing : closing ≠ '\n') (same : unifyLineEnds cs = opening :: inner ++ [closing]) :
    ∃ between, cs = opening :: between ++ [closing] ∧ unifyLineEnds between = inner := by
  obtain ⟨front, last, rfl, hfront, hlast⟩ := unifyLineEnds_eq_append same
  obtain ⟨between, rfl, hbetween⟩ := unifyLineEnds_eq_cons hfront hopening
  rw [eq_of_unifyLineEnds hlast (by simpa using hclosing.symm)]
  exact ⟨between, rfl, hbetween⟩

theorem derives_of_unified {part : Part} (h : Derives part ds) : unifyLineEnds cs = ds → Derives part cs := by
  -- On the derivation, for all texts that it may come from: marks and quoted letters are no line ends, so they stand in
  -- the text as they are, and only the blanks between them may differ.
  induction h generalizing cs with
  | string h =>
    intro same
    rw [eq_of_unifyLineEnds same (not_feed_of_string h)]
    exact .string h
  | number h =>
    intro same
    rw [eq_of_unifyLineEnds same (not_feed_of_number h)]
    exact .number h
  | word h =>
    intro same
    rw [eq_of_unifyLineEnds same (not_feed_of_word h)]
    exact .word h
  | emptyList h =>
    intro same
    obtain ⟨blanks, rfl, rfl⟩ := enclosed_of_unified (by decide) (by decide) same
    exact .emptyList (areBlanks_of_unified h)
  | list h _ ih =>
    intro same
    obtain ⟨between, rfl, hbetween⟩ := enclosed_of_unified (by decide) (by decide) same
    obtain ⟨blanks, items, rfl, rfl, hitems⟩ := unifyLineEnds_eq_append hbetween
    exact .list (areBlanks_of_unified h) (ih hitems)
  | emptyMapping h =>
    intro same
    obtain ⟨blanks, rfl, rfl⟩ := enclosed_of_unified (by decide) (by decide) same
    exact .emptyMapping (areBlanks_of_unified h)
  | mapping h _ ih =>
    intro same
    obtain ⟨between, rfl, hbetween⟩ := enclosed_of_unified (by decide) (by decide) same
    obtain ⟨blanks, members, rfl, rfl, hmembers⟩ := unifyLineEnds_eq_append hbetween
    exact .mapping (areBlanks_of_unified h) (ih hmembers)
  | member named hbefore hafter _ ih =>
    intro same
    obtain ⟨front, v, rfl, hfront, hv⟩ := unifyLineEnds_eq_append same
    obtain ⟨name, colon, rfl, hname, hcolon⟩ := unifyLineEnds_eq_append hfront
    obtain ⟨key, before, rfl, hkey, rfl⟩ := unifyLineEnds_eq_append hname
    obtain ⟨after, rfl, rfl⟩ := unifyLineEnds_eq_cons hcolon (by decide)
    rw [eq_of_unifyLineEnds hkey (not_feed_of_string named)]
    exact .member named (areBlanks_of_unified hbefore) (areBlanks_of_unified hafter) (ih hv)
  | last _ hblanks ih =>
    intro same
    obtain ⟨one, blanks, rfl, hone, rfl⟩ := unifyLineEnds_eq_append same
    exact .last (ih hone) (areBlanks_of_unified hblanks)
  | next _ hbefore hafter _ ih more =>
    intro same
    obtain ⟨front, rest, rfl, hfront, hrest⟩ := unifyLineEnds_eq_append same
    obtain ⟨first, comma, rfl, hfirst, hcomma⟩ := unifyLineEnds_eq_append hfront
    obtain ⟨one, before, rfl, hone, rfl⟩ := unifyLineEnds_eq_append hfirst
    obtain ⟨after, rfl, rfl⟩ := unifyLineEnds_eq_cons hcomma (by decide)
    exact .next (ih hone) (areBlanks_of_unified hbefore) (areBlanks_of_unified hafter) (more hrest)

theorem isDocument_of_unified (h : IsDocument (unifyLineEnds cs)) : IsDocument cs := by
  generalize same : unifyLineEnds cs = text at h
  obtain ⟨hbefore, hafter, h⟩ := h
  obtain ⟨front, after, rfl, hfront, rfl⟩ := unifyLineEnds_eq_append same
  obtain ⟨before, v, rfl, rfl, hv⟩ := unifyLineEnds_eq_append hfront
  exact .value (areBlanks_of_unified hbefore) (areBlanks_of_unified hafter) (derives_of_unified h hv)

end Preflight.Json
