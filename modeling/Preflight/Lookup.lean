namespace Preflight

variable {α β : Type} [BEq α] [LawfulBEq α]

theorem lookup_without (entries : List (α × β)) (key : α) : (entries.filter (·.1 != key)).lookup key = none := by
  induction entries with
  | nil => rfl
  | cons entry rest ih =>
    by_cases hkey : entry.1 = key
    · rw [List.filter_cons_of_neg (by simp [hkey]), ih]
    · have other : (key == entry.1) = false := beq_false_of_ne (Ne.symm hkey)
      rw [List.filter_cons_of_pos (by simp [hkey]), List.lookup_cons, ih, other]

theorem lookup_without_of_ne {entries : List (α × β)} {key other : α} (h : other ≠ key) :
    (entries.filter (·.1 != key)).lookup other = entries.lookup other := by
  induction entries with
  | nil => rfl
  | cons entry rest ih =>
    by_cases hkey : entry.1 = key
    · have skipped : (other == entry.1) = false := hkey ▸ beq_false_of_ne h
      rw [List.filter_cons_of_neg (by simp [hkey]), List.lookup_cons, skipped]
      exact ih
    · rw [List.filter_cons_of_pos (by simp [hkey]), List.lookup_cons, List.lookup_cons, ih]

theorem lookup_put (entries : List (α × β)) (key other : α) (value : β) [DecidableEq α] :
    ((key, value) :: entries.filter (·.1 != key)).lookup other =
      if other = key then some value else entries.lookup other := by
  by_cases h : other = key
  · simp [h]
  · rw [List.lookup_cons, beq_false_of_ne h, if_neg h]
    exact lookup_without_of_ne h

end Preflight
