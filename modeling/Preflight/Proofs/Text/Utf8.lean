import Mathlib.Data.List.Basic
import Mathlib.Data.List.TakeWhile
import Preflight.Files.Tree

namespace Preflight.Utf8

def Follow (a : Nat) : List Nat → Prop
  | [] => True
  | b :: more => maySecond a b = true ∧ ∀ t ∈ more, isTail t = true

structure IsGroup (a : Nat) (tails : List Nat) : Prop where
  announced : announced a = some (tails.length + 1)
  follow : Follow a tails

theorem isTail_iff {b : Nat} : isTail b = true ↔ 0x80 ≤ b ∧ b ≤ 0xbf := by
  unfold isTail
  rw [Bool.and_eq_true, decide_eq_true_iff, decide_eq_true_iff]

theorem maySecond_iff {a b : Nat} : maySecond a b = true ↔ (0x80 ≤ b ∧ b ≤ 0xbf) ∧ (a = 0xe0 → 0xa0 ≤ b) ∧
    (a = 0xed → b < 0xa0) ∧ (a = 0xf0 → 0x90 ≤ b) ∧ (a = 0xf4 → b < 0x90) := by
  unfold maySecond
  simp only [Bool.and_eq_true, isTail_iff, Bool.or_eq_true, bne_iff_ne, decide_eq_true_iff, ne_eq]
  omega

theorem announced_two {a : Nat} (h : 0xc2 ≤ a ∧ a < 0xe0) : announced a = some 2 := by
  unfold announced
  rw [if_neg (by omega), if_neg (by omega), if_pos h.2]

theorem announced_three {a : Nat} (h : 0xe0 ≤ a ∧ a < 0xf0) : announced a = some 3 := by
  unfold announced
  rw [if_neg (by omega), if_neg (by omega), if_neg (by omega), if_pos h.2]

theorem announced_four {a : Nat} (h : 0xf0 ≤ a ∧ a < 0xf5) : announced a = some 4 := by
  unfold announced
  rw [if_neg (by omega), if_neg (by omega), if_neg (by omega), if_neg (by omega), if_pos h.2]

theorem announced_eq {a width : Nat} (h : announced a = some width) : width = 1 ∧ a < 0x80 ∨
    width = 2 ∧ 0xc2 ≤ a ∧ a < 0xe0 ∨ width = 3 ∧ 0xe0 ≤ a ∧ a < 0xf0 ∨ width = 4 ∧ 0xf0 ≤ a ∧ a < 0xf5 := by
  unfold announced at h
  repeat' split at h
  all_goals simp_all

theorem tailCount_eq {a : Nat} {tails : List Nat} (h : Follow a tails) (rest : List Nat) :
    tailCount a tails.length (tails ++ rest) = tails.length := by
  unfold tailCount
  rw [List.take_left]
  cases tails with
  | nil => rfl
  | cons b more =>
    dsimp only
    rw [if_pos h.1, List.takeWhile_eq_self_iff.mpr h.2, List.length_cons, Nat.add_comm]

theorem follow_of_tailCount {a wanted : Nat} {rest : List Nat} (h : tailCount a wanted rest = wanted) :
    Follow a (rest.take wanted) ∧ (rest.take wanted).length = wanted := by
  unfold tailCount at h
  split at h
  next none =>
    rw [none]
    exact ⟨trivial, h⟩
  next b more taken =>
    have short : (rest.take wanted).length ≤ wanted := List.length_take_le wanted rest
    rw [taken, List.length_cons] at short ⊢
    split at h
    next second =>
      have fewer : (more.takeWhile isTail).length ≤ more.length := (List.takeWhile_prefix isTail).length_le
      have all : more.takeWhile isTail = more :=
        (List.takeWhile_prefix isTail).eq_of_length (by omega)
      exact ⟨⟨second, List.takeWhile_eq_self_iff.mp all⟩, by omega⟩
    next => omega

theorem firstChar_eq_ok {offset a width : Nat} {rest : List Nat} {c : Char} :
    firstChar offset a rest = .ok (c, width) ↔
      IsGroup a (rest.take (width - 1)) ∧ (rest.take (width - 1)).length + 1 = width ∧
        c = Char.ofNat (codePoint a (rest.take (width - 1))) := by
  unfold firstChar
  constructor
  · intro h
    split at h
    next => cases h
    next width' first =>
      dsimp only at h
      split at h
      next all =>
        cases h
        have found : tailCount a (width - 1) rest = width - 1 := by omega
        obtain ⟨follow, length⟩ := follow_of_tailCount found
        rw [found]
        exact ⟨⟨by rw [first]; congr 1; omega, follow⟩, by omega, rfl⟩
      next =>
        split at h
        all_goals cases h
  · rintro ⟨⟨first, follow⟩, length, rfl⟩
    have count := tailCount_eq follow (rest.drop (width - 1))
    rw [List.take_append_drop, show (rest.take (width - 1)).length = width - 1 by omega] at count
    rw [first, length]
    dsimp only
    rw [count, if_pos (by omega)]

theorem toNat_ofNat {n : Nat} (h : n.isValidChar) : (Char.ofNat n).toNat = n := by
  unfold Char.ofNat
  rw [dif_pos h]
  rfl

theorem codePoint_two {a b : Nat} (ha : a < 0xe0) : codePoint a [b] = a % 0x20 * 64 + b % 64 := by
  simp [codePoint, ha]

theorem codePoint_three {a b c : Nat} (ha : 0xe0 ≤ a ∧ a < 0xf0) :
    codePoint a [b, c] = (a % 0x10 * 64 + b % 64) * 64 + c % 64 := by
  simp [codePoint, Nat.not_lt.mpr ha.1, ha.2]

theorem codePoint_four {a b c d : Nat} (ha : 0xf0 ≤ a) :
    codePoint a [b, c, d] = ((a % 0x08 * 64 + b % 64) * 64 + c % 64) * 64 + d % 64 := by
  have high : ¬ a < 0xe0 := by omega
  simp [codePoint, high, Nat.not_lt.mpr ha]

theorem encodeChar_codePoint {a : Nat} {tails : List Nat} (h : IsGroup a tails) :
    encodeChar (Char.ofNat (codePoint a tails)) = a :: tails := by
  obtain ⟨first, follow⟩ := h
  unfold encodeChar
  rcases announced_eq first with ⟨width, bound⟩ | ⟨width, bound⟩ | ⟨width, bound⟩ | ⟨width, bound⟩
  · obtain rfl : tails = [] := List.length_eq_zero_iff.mp (by omega)
    have code : codePoint a [] = a := rfl
    rw [code, toNat_ofNat (.inl (by omega)), if_pos bound]
  · obtain ⟨b, rfl⟩ : ∃ b, tails = [b] := List.length_eq_one_iff.mp (by omega)
    obtain ⟨tail, -⟩ := maySecond_iff.mp follow.1
    rw [codePoint_two bound.2, toNat_ofNat (.inl (by omega)), if_neg (by omega), if_pos (by omega)]
    simp only [List.cons.injEq, and_true]
    omega
  · obtain ⟨b, c, rfl⟩ : ∃ b c, tails = [b, c] := List.length_eq_two.mp (by omega)
    obtain ⟨tail, least, most, -⟩ := maySecond_iff.mp follow.1
    have last := isTail_iff.mp (follow.2 c (by simp))
    rw [codePoint_three bound, toNat_ofNat (show Nat.isValidChar _ by unfold Nat.isValidChar; omega),
      if_neg (by omega), if_neg (by omega), if_pos (by omega)]
    simp only [List.cons.injEq, and_true]
    omega
  · obtain ⟨b, c, d, rfl⟩ : ∃ b c d, tails = [b, c, d] := List.length_eq_three.mp (by omega)
    obtain ⟨tail, -, -, least, most⟩ := maySecond_iff.mp follow.1
    have third := isTail_iff.mp (follow.2 c (by simp))
    have last := isTail_iff.mp (follow.2 d (by simp))
    rw [codePoint_four bound.1, toNat_ofNat (show Nat.isValidChar _ by unfold Nat.isValidChar; omega),
      if_neg (by omega), if_neg (by omega), if_neg (by omega)]
    simp only [List.cons.injEq, and_true]
    omega

theorem encodeChar_isGroup (c : Char) :
    ∃ a tails, encodeChar c = a :: tails ∧ IsGroup a tails ∧ Char.ofNat (codePoint a tails) = c := by
  have valid : c.toNat < 55296 ∨ 57343 < c.toNat ∧ c.toNat < 1114112 := c.valid
  have read {n : Nat} (h : n = c.toNat) : Char.ofNat n = c := by rw [h, Char.ofNat_toNat]
  unfold encodeChar
  dsimp only
  split
  next one =>
    have first : announced c.toNat = some 1 := if_pos one
    exact ⟨_, _, rfl, ⟨first, trivial⟩, read rfl⟩
  split
  next two =>
    refine ⟨_, _, rfl, ⟨announced_two (by omega), maySecond_iff.mpr (by omega), by simp⟩, read ?_⟩
    rw [codePoint_two (by omega)]
    omega
  split
  next three =>
    refine ⟨_, _, rfl, ⟨announced_three (by omega), maySecond_iff.mpr (by omega), ?_⟩, read ?_⟩
    · simp only [List.mem_singleton, forall_eq, isTail_iff]
      omega
    · rw [codePoint_three (by omega)]
      omega
  next four =>
    refine ⟨_, _, rfl, ⟨announced_four (by omega), maySecond_iff.mpr (by omega), ?_⟩, read ?_⟩
    · simp only [List.forall_mem_cons, List.mem_singleton, forall_eq, isTail_iff]
      omega
    · rw [codePoint_four (by omega)]
      omega

theorem encode_cons (c : Char) (cs : List Char) : encode (c :: cs) = encodeChar c ++ encode cs := List.flatMap_cons

theorem encode_eq_nil {cs : List Char} : [] = encode cs ↔ cs = [] := by
  cases cs with
  | nil => exact iff_of_true rfl rfl
  | cons c cs =>
    obtain ⟨a, tails, written, -⟩ := encodeChar_isGroup c
    rw [encode_cons, written]
    exact iff_of_false nofun nofun

theorem decodeFrom_cons {fuel offset a width : Nat} {rest : List Nat} {c : Char}
    (first : firstChar offset a rest = .ok (c, width)) : decodeFrom (fuel + 1) offset (a :: rest) =
      (c :: ·) <$> decodeFrom fuel (offset + width) (rest.drop (width - 1)) := by
  rw [decodeFrom, first]
  rfl

theorem encode_of_decodeFrom {fuel offset : Nat} {octets : List Nat} {cs : List Char} (enough : octets.length ≤ fuel)
    (h : decodeFrom fuel offset octets = .ok cs) : octets = encode cs := by
  -- On the fuel: a character takes up one octet at least, so there are fewer left for the rest.
  induction fuel generalizing offset octets cs with
  | zero =>
    obtain rfl : octets = [] := List.length_eq_zero_iff.mp (by omega)
    exact encode_eq_nil.mpr (Except.ok.inj h).symm
  | succ fuel ih =>
    cases octets with
    | nil => exact encode_eq_nil.mpr (Except.ok.inj h).symm
    | cons a rest =>
      cases first : firstChar offset a rest with
      | error flaw =>
        rw [decodeFrom, first] at h
        cases h
      | ok read =>
        obtain ⟨c, width⟩ := read
        rw [decodeFrom_cons first] at h
        cases later : decodeFrom fuel (offset + width) (rest.drop (width - 1)) with
        | error flaw =>
          rw [later] at h
          cases h
        | ok cs' =>
          rw [later] at h
          obtain rfl : c :: cs' = cs := Except.ok.inj h
          obtain ⟨group, -, rfl⟩ := firstChar_eq_ok.mp first
          have fewer : (rest.drop (width - 1)).length ≤ fuel := by
            rw [List.length_cons] at enough
            rw [List.length_drop]
            omega
          have written := ih fewer later
          rw [encode_cons, encodeChar_codePoint group, ← written, List.cons_append, List.take_append_drop]

theorem decodeFrom_encode {fuel offset : Nat} {cs : List Char} (enough : (encode cs).length ≤ fuel) :
    decodeFrom fuel offset (encode cs) = .ok cs := by
  induction cs generalizing fuel offset with
  | nil => cases fuel <;> rfl
  | cons c cs ih =>
    obtain ⟨a, tails, written, group, read⟩ := encodeChar_isGroup c
    rw [encode_cons, written, List.cons_append] at enough ⊢
    rw [List.length_cons, List.length_append] at enough
    obtain ⟨fuel, rfl⟩ : ∃ more, fuel = more + 1 := ⟨fuel - 1, by omega⟩
    have first : firstChar offset a (tails ++ encode cs) = .ok (c, tails.length + 1) := by
      rw [firstChar_eq_ok, Nat.add_sub_cancel, List.take_left]
      exact ⟨group, rfl, read.symm⟩
    rw [decodeFrom_cons first, Nat.add_sub_cancel, List.drop_left, ih (by omega)]
    rfl

theorem decodeFrom_eq_ok {fuel offset : Nat} {octets : List Nat} {cs : List Char} (enough : octets.length ≤ fuel) :
    decodeFrom fuel offset octets = .ok cs ↔ octets = encode cs := by
  constructor
  · exact encode_of_decodeFrom enough
  · rintro rfl
    exact decodeFrom_encode enough

theorem decode_eq_ok {octets : List Nat} {cs : List Char} : decode octets = .ok cs ↔ octets = encode cs :=
  decodeFrom_eq_ok (Nat.le_refl _)

section

variable {cs before after : List Char}

theorem unifyLineEnds_cons {c : Char} (h : c ≠ '\r') : unifyLineEnds (c :: cs) = c :: unifyLineEnds cs := by
  rw [unifyLineEnds]
  · rintro _ rfl
    exact absurd rfl h
  · rintro rfl
    exact absurd rfl h

theorem unifyLineEnds_lone (h : ∀ rest, cs ≠ '\n' :: rest) : unifyLineEnds ('\r' :: cs) = '\n' :: unifyLineEnds cs := by
  rw [unifyLineEnds]
  exact h

theorem unifyLineEnds_eq_append (h : unifyLineEnds cs = before ++ after) :
    ∃ before' after', cs = before' ++ after' ∧ unifyLineEnds before' = before ∧ unifyLineEnds after' = after := by
  induction cs using unifyLineEnds.induct generalizing before with
  | case1 rest ih =>
    cases before with
    | nil => exact ⟨[], _, rfl, rfl, h⟩
    | cons d before =>
      obtain ⟨rfl, tail⟩ := List.cons.inj h
      obtain ⟨before', after', rfl, rfl, same⟩ := ih tail
      exact ⟨'\r' :: '\n' :: before', after', rfl, rfl, same⟩
  | case2 rest lone ih =>
    cases before with
    | nil => exact ⟨[], _, rfl, rfl, h⟩
    | cons d before =>
      rw [unifyLineEnds_lone lone] at h
      obtain ⟨rfl, tail⟩ := List.cons.inj h
      obtain ⟨before', after', rfl, rfl, same⟩ := ih tail
      refine ⟨'\r' :: before', after', rfl, unifyLineEnds_lone ?_, same⟩
      rintro rest' rfl
      exact lone _ rfl
  | case3 c rest paired lone ih =>
    have other : c ≠ '\r' := fun same => lone same
    cases before with
    | nil => exact ⟨[], _, rfl, rfl, h⟩
    | cons d before =>
      rw [unifyLineEnds_cons other] at h
      obtain ⟨rfl, tail⟩ := List.cons.inj h
      obtain ⟨before', after', rfl, rfl, same⟩ := ih tail
      exact ⟨c :: before', after', rfl, unifyLineEnds_cons other, same⟩
  | case4 =>
    obtain ⟨rfl, rfl⟩ := List.append_eq_nil_iff.mp h.symm
    exact ⟨[], [], rfl, rfl, rfl⟩

theorem unifyLineEnds_eq_cons {c : Char} (h : unifyLineEnds cs = c :: after) (inner : c ≠ '\n') :
    ∃ rest, cs = c :: rest ∧ unifyLineEnds rest = after := by
  unfold unifyLineEnds at h
  split at h
  next => exact absurd (List.cons.inj h).1.symm inner
  next => exact absurd (List.cons.inj h).1.symm inner
  next d rest _ _ =>
    obtain ⟨rfl, tail⟩ := List.cons.inj h
    exact ⟨rest, rfl, tail⟩
  next => cases h

theorem eq_of_unifyLineEnds (h : unifyLineEnds cs = after) (inner : '\n' ∉ after) : cs = after := by
  induction after generalizing cs with
  | nil =>
    unfold unifyLineEnds at h
    split at h
    all_goals first | rfl | cases h
  | cons c after ih =>
    rw [List.mem_cons, not_or] at inner
    obtain ⟨rest, rfl, tail⟩ := unifyLineEnds_eq_cons h (Ne.symm inner.1)
    rw [ih tail inner.2]

theorem mem_unifyLineEnds {c : Char} (h : c ∈ cs) : c ∈ unifyLineEnds cs ∨ c = '\r' ∨ c = '\n' := by
  induction cs using unifyLineEnds.induct with
  | case1 rest ih =>
    rw [List.mem_cons, List.mem_cons] at h
    rcases h with rfl | rfl | h
    · exact .inr (.inl rfl)
    · exact .inr (.inr rfl)
    · exact (ih h).imp_left (List.mem_cons_of_mem _)
  | case2 rest lone ih =>
    rw [unifyLineEnds_lone lone]
    rw [List.mem_cons] at h
    rcases h with rfl | h
    · exact .inr (.inl rfl)
    · exact (ih h).imp_left (List.mem_cons_of_mem _)
  | case3 d rest _ lone ih =>
    rw [unifyLineEnds_cons fun same => lone same]
    rw [List.mem_cons] at h
    rcases h with rfl | h
    · exact .inl List.mem_cons_self
    · exact (ih h).imp_left (List.mem_cons_of_mem _)
  | case4 => cases h

end

theorem lt_of_mem_encodeChar {c : Char} {b : Nat} (h : b ∈ encodeChar c) : b < 256 := by
  obtain ⟨a, tails, written, ⟨first, follow⟩, -⟩ := encodeChar_isGroup c
  have small : a < 0xf5 := by
    rcases announced_eq first with bound | bound | bound | bound
    all_goals omega
  rw [written, List.mem_cons] at h
  rcases h with rfl | h
  · omega
  · cases tails with
    | nil => cases h
    | cons second more =>
      have tail : isTail b = true := by
        rcases List.mem_cons.mp h with rfl | h
        · exact isTail_iff.mpr (maySecond_iff.mp follow.1).1
        · exact follow.2 b h
      have bound := isTail_iff.mp tail
      omega

theorem map_toNat_eq {octets : List UInt8} {text : String} :
    octets.map UInt8.toNat = encode text.toList ↔ octets = Utf8.octets text := by
  unfold Utf8.octets
  constructor
  · intro h
    rw [← h, List.map_map]
    conv_lhs => rw [← List.map_id octets]
    apply List.map_congr_left
    intro b _
    exact UInt8.ofNat_toNat.symm
  · rintro rfl
    rw [List.map_map]
    conv_rhs => rw [← List.map_id (encode text.toList)]
    apply List.map_congr_left
    intro b hb
    obtain ⟨c, -, hc⟩ := List.mem_flatMap.mp hb
    exact Nat.mod_eq_of_lt (lt_of_mem_encodeChar hc)

theorem octets_injective {text text' : String} (h : octets text = octets text') : text = text' := by
  have read := decode_eq_ok.mpr (map_toNat_eq.mpr (Eq.refl (octets text)))
  have read' := decode_eq_ok.mpr (map_toNat_eq.mpr h)
  exact String.toList_inj.mp (Except.ok.inj (read.symm.trans read'))

theorem text_octets (text : String) : Utf8.text (octets text) = .ok (unifyLineEnds text.toList) := by
  have read : decode ((octets text).map UInt8.toNat) = .ok text.toList := decode_eq_ok.mpr (map_toNat_eq.mpr rfl)
  rw [Utf8.text, read]

theorem text_cases (octets : List UInt8) :
    (∃ text : String, octets = Utf8.octets text ∧ Utf8.text octets = .ok (unifyLineEnds text.toList)) ∨
      (∀ text : String, octets ≠ Utf8.octets text) ∧ ∃ flaw, Utf8.text octets = .error (.undecodable flaw) := by
  unfold Utf8.text
  cases read : decode (octets.map UInt8.toNat) with
  | ok cs =>
    have written := decode_eq_ok.mp read
    rw [show cs = (String.ofList cs).toList from String.toList_ofList.symm] at written
    refine .inl ⟨String.ofList cs, map_toNat_eq.mp written, ?_⟩
    rw [String.toList_ofList]
  | error flaw =>
    refine .inr ⟨?_, flaw, rfl⟩
    intro text same
    rw [decode_eq_ok.mpr (map_toNat_eq.mpr same)] at read
    cases read

end Preflight.Utf8
