import Preflight.Proofs.Json.Grammar

namespace Preflight.Json

def HasOverlong (n : Nat) (text : List Char) : Prop :=
  ∃ digits, digits <:+: text ∧ AreDigits digits ∧ digits.length = n ∧ Numeral.digitLimit < n

variable {c c' : Cursor} {n : Nat}

theorem HasOverlong.later {P : List Char → Prop} (h : HasOverlong n c'.rest) (passed : Passes P c c') :
    HasOverlong n c.rest := by
  obtain ⟨digits, run, rest⟩ := h
  obtain ⟨read, hread, -⟩ := passed
  refine ⟨digits, run.trans ?_, rest⟩
  rw [hread]
  exact (List.suffix_append read c'.rest).isInfix

theorem passes_advance (c : Cursor) (width : Nat) : Passes (fun _ => True) c (c.advance width) :=
  ⟨c.rest.take width, (List.take_append_drop width c.rest).symm, trivial⟩

theorem HasOverlong.after {P : List Char → Prop} {c₁ : Cursor}
    (h : HasOverlong n (c₁.advance 1).skipBlanks.rest) (passed : Passes P c c₁) : HasOverlong n c.rest :=
  ((h.later (passes_skipBlanks _)).later (passes_advance c₁ 1)).later passed

theorem passes_quoted {key : String} {start fuel : Nat} {rest : List Char} (quote : c.rest = '"' :: rest)
    (named : readString start fuel ⟨c.offset + 1, rest⟩ [] = .ok (key, c')) : Passes (fun _ => True) c c' := by
  obtain ⟨read, hread, -⟩ := passes_readString named
  refine ⟨'"' :: read, ?_, trivial⟩
  rw [quote, List.cons_append]
  exact congrArg _ hread

theorem bind_error {α β : Type} {x : Except Flaw α} {f : α → Except Flaw β} {flaw : Flaw} (h : x >>= f = .error flaw) :
    x = .error flaw ∨ ∃ a, x = .ok a ∧ f a = .error flaw := by
  cases x with
  | error _ =>
    cases h
    exact .inl rfl
  | ok a => exact .inr ⟨a, rfl, h⟩

theorem readUnicode_ne : readUnicode c ≠ .error (.tooManyDigits n) := by
  intro h
  unfold readUnicode at h
  dsimp only [fail] at h
  repeat' split at h
  all_goals cases h

theorem readString_ne {start fuel : Nat} {done : List Char} :
    readString start fuel c done ≠ .error (.tooManyDigits n) := by
  induction fuel generalizing c done with
  | zero => nofun
  | succ fuel ih =>
    intro h
    unfold readString at h
    split at h
    next => cases h
    next => cases h
    next => cases h
    next =>
      rcases bind_error h with unread | ⟨_, -, h⟩
      · exact readUnicode_ne unread
      · exact ih h
    next =>
      split at h
      · exact ih h
      · cases h
    next =>
      split at h
      · cases h
      · exact ih h

theorem areDigits_leadingDigits (cs : List Char) : AreDigits (leadingDigits cs) := by
  unfold leadingDigits
  split
  · intro d hd
    rw [List.mem_singleton.mp hd]
    decide
  · exact areDigits_takeWhile cs

theorem hasOverlong_leadingDigits {sign cs : List Char} (parted : c.rest = sign ++ cs)
    (long : Numeral.digitLimit < (leadingDigits cs).length) : HasOverlong (leadingDigits cs).length c.rest := by
  refine ⟨leadingDigits cs, ⟨sign, cs.drop (leadingDigits cs).length, ?_⟩, areDigits_leadingDigits cs, rfl, long⟩
  rw [parted, List.append_assoc, leadingDigits_append]

theorem overlong_of_readNumber (h : readNumber c = .error (.tooManyDigits n)) : HasOverlong n c.rest := by
  unfold readNumber at h
  split at h
  next negative cs parts =>
    have parted : ∃ sign, c.rest = sign ++ cs := by
      split at parts
      next start =>
        cases parts
        exact ⟨['-'], start⟩
      next =>
        cases parts
        exact ⟨[], rfl⟩
    obtain ⟨sign, parted⟩ := parted
    dsimp only [fail] at h
    split at h
    · cases h
    split at h
    · cases h
    split at h
    · split at h
      next long =>
        cases h
        exact hasOverlong_leadingDigits parted long
      next => cases h
    · cases h

theorem overlong_of_readAtom (h : readAtom c = .error (.tooManyDigits n)) : HasOverlong n c.rest := by
  unfold readAtom at h
  split at h
  · cases h
  · exact overlong_of_readNumber h

theorem overlong_of_read (fuel : Nat) :
    (∀ {c}, readValue fuel c = .error (.tooManyDigits n) → HasOverlong n c.rest) ∧
    (∀ {c done}, readItems fuel c done = .error (.tooManyDigits n) → HasOverlong n c.rest) ∧
    ∀ {c done}, readMembers fuel c done = .error (.tooManyDigits n) → HasOverlong n c.rest := by
  induction fuel with
  | zero => exact ⟨nofun, nofun, nofun⟩
  | succ fuel ih =>
    obtain ⟨value, items, members⟩ := ih
    refine ⟨?_, ?_, ?_⟩
    · intro c h
      unfold readValue at h
      split at h
      next =>
        rcases bind_error h with unread | ⟨_, -, h⟩
        · exact absurd unread readString_ne
        · cases h
      next =>
        dsimp only at h
        split at h
        · cases h
        · exact ((items h).later (passes_skipBlanks _)).later (passes_advance c 1)
      next =>
        dsimp only at h
        split at h
        · cases h
        · exact ((members h).later (passes_skipBlanks _)).later (passes_advance c 1)
      next => exact overlong_of_readAtom h
    · intro c done h
      unfold readItems at h
      rcases bind_error h with unread | ⟨⟨v, c₁⟩, read, h⟩
      · exact value unread
      · dsimp only at h
        split at h
        next => cases h
        next => exact (items h).after (passes_skipBlanks c₁) |>.later ((passes_read fuel).1 read)
        next => cases h
    · intro c done h
      unfold readMembers at h
      split at h
      next rest quote =>
        rcases bind_error h with unread | ⟨⟨key, c₁⟩, named, h⟩
        · exact absurd unread readString_ne
        have key := passes_quoted quote named
        dsimp only at h
        split at h
        next =>
          rcases bind_error h with unread | ⟨⟨v, c₂⟩, read, h⟩
          · exact ((value unread).after (passes_skipBlanks c₁)).later key
          dsimp only at h
          split at h
          next => cases h
          next =>
            have later := ((members h).after (passes_skipBlanks c₂)).later ((passes_read fuel).1 read)
            exact (later.after (passes_skipBlanks c₁)).later key
          next => cases h
        next => cases h
      next => cases h

theorem overlong_of_readDocument {text : List Char} (h : readDocument text = .error (.tooManyDigits n)) :
    HasOverlong n text := by
  unfold readDocument at h
  split at h
  next => cases h
  next =>
    rcases bind_error h with unread | ⟨⟨v, c⟩, -, h⟩
    · exact ((overlong_of_read _).1 unread).later (passes_skipBlanks (Cursor.mk 0 text))
    · dsimp only at h
      split at h
      next => cases h
      next => cases h

theorem toNat_sub_lt {d : Char} (h : '0' ≤ d ∧ d ≤ '9') : d.toNat - '0'.toNat < 10 := by
  have most : d.toNat ≤ 57 := h.2
  change d.toNat - 48 < 10
  omega

theorem foldl_digits_lt {digits : List Char} (h : AreDigits digits) (n : Nat) :
    digits.foldl (fun n d => n * 10 + (d.toNat - '0'.toNat)) n < (n + 1) * tenTo digits.length := by
  induction digits generalizing n with
  | nil =>
    change n < (n + 1) * 1
    omega
  | cons d ds ih =>
    have first := toNat_sub_lt (h d List.mem_cons_self)
    have later := ih (fun d hd => h d (List.mem_cons_of_mem _ hd)) (n * 10 + (d.toNat - '0'.toNat))
    rw [List.foldl_cons, List.length_cons]
    calc _ < (n * 10 + (d.toNat - '0'.toNat) + 1) * tenTo ds.length := later
      _ ≤ (n * 10 + 10) * tenTo ds.length := Nat.mul_le_mul_right _ (by omega)
      _ = (n + 1) * tenTo (ds.length + 1) := by
        rw [tenTo_succ, Nat.mul_comm (tenTo _), ← Nat.mul_assoc, Nat.add_mul n 1]

theorem value_lt {digits : List Char} (h : AreDigits digits) : Numeral.value digits < tenTo digits.length := by
  have whole := foldl_digits_lt h 0
  rwa [Nat.zero_add, Nat.one_mul] at whole

theorem not_isLong {digits : List Char} {negative : Bool} (h : AreDigits digits)
    (few : digits.length ≤ Numeral.digitLimit) :
    Numeral.isLong (Double.signed negative (Numeral.value digits)) = false := by
  have magnitude : (Double.signed negative (Numeral.value digits)).natAbs = Numeral.value digits := by
    cases negative
    · rfl
    · exact Int.natAbs_neg _
  rw [← Bool.not_eq_true, Numeral.isLong_iff, magnitude, Nat.not_le]
  exact Nat.lt_of_lt_of_le (value_lt h) (tenTo_le_tenTo few)

variable {v : Value}

theorem short_of_readNumber (h : readNumber c = .ok (v, c')) : v.holdsLong = false := by
  unfold readNumber at h
  split at h
  next negative cs _ =>
    dsimp only [fail] at h
    split at h
    · cases h
    split at h
    · cases h
      rfl
    split at h
    · split at h
      · cases h
      next few =>
        cases h
        exact not_isLong (areDigits_leadingDigits cs) (Nat.le_of_not_lt few)
    · cases h
      rfl

theorem short_of_readAtom (h : readAtom c = .ok (v, c')) : v.holdsLong = false := by
  have known : ∀ w ∈ words, w.2.holdsLong = false := by
    unfold words
    simp [Value.holdsLong]
  unfold readAtom at h
  split at h
  next found =>
    cases h
    exact known _ (List.mem_of_find?_eq_some found)
  next => exact short_of_readNumber h

theorem short_list {items : List Value} (h : ∀ v ∈ items, v.holdsLong = false) : (Value.list items).holdsLong = false := by
  rw [Value.holdsLong_list, List.any_eq_false]
  exact fun v hv => Bool.eq_false_iff.mp (h v hv)

theorem short_ofList {pairs : List (String × Value)} (h : ∀ e ∈ pairs, e.2.holdsLong = false) :
    (Value.mapping (Entries.ofList pairs)).holdsLong = false := by
  rw [Value.holdsLong_mapping, List.any_eq_false]
  exact fun e he => Bool.eq_false_iff.mp (Entries.forall_ofList (P := fun v => v.holdsLong = false) h e he)

theorem short_of_read (fuel : Nat) :
    (∀ {c c' v}, readValue fuel c = .ok (v, c') → v.holdsLong = false) ∧
    (∀ {c c' done v}, (∀ v ∈ done, v.holdsLong = false) → readItems fuel c done = .ok (v, c') →
      v.holdsLong = false) ∧
    ∀ {c c' done v}, (∀ e ∈ done, e.2.holdsLong = false) → readMembers fuel c done = .ok (v, c') →
      v.holdsLong = false := by
  -- On the fuel. What was read before an item or a member has no long number either, so neither has the whole.
  induction fuel with
  | zero => exact ⟨nofun, nofun, nofun⟩
  | succ fuel ih =>
    obtain ⟨value, items, members⟩ := ih
    refine ⟨?_, ?_, ?_⟩
    · intro c c' v h
      unfold readValue at h
      split at h
      next =>
        obtain ⟨_, -, h⟩ := bind_ok h
        cases h
        rfl
      next =>
        dsimp only at h
        split at h
        · cases h
          rfl
        · exact items (List.forall_mem_nil _) h
      next =>
        dsimp only at h
        split at h
        · cases h
          rfl
        · exact members (List.forall_mem_nil _) h
      next => exact short_of_readAtom h
    · intro c c' done v short h
      unfold readItems at h
      obtain ⟨⟨first, c₁⟩, read, h⟩ := bind_ok h
      have short : ∀ v ∈ first :: done, v.holdsLong = false := List.forall_mem_cons.mpr ⟨value read, short⟩
      dsimp only at h
      split at h
      next =>
        cases h
        exact short_list fun v hv => short v (List.mem_reverse.mp hv)
      next => exact items short h
      next => cases h
    · intro c c' done v short h
      unfold readMembers at h
      split at h
      next =>
        obtain ⟨⟨key, c₁⟩, -, h⟩ := bind_ok h
        dsimp only at h
        split at h
        next =>
          obtain ⟨⟨first, c₂⟩, read, h⟩ := bind_ok h
          have short : ∀ e ∈ (key, first) :: done, e.2.holdsLong = false :=
            List.forall_mem_cons.mpr ⟨value read, short⟩
          dsimp only at h
          split at h
          next =>
            cases h
            exact short_ofList fun e he => short e (List.mem_reverse.mp he)
          next => exact members short h
          next => cases h
        next => cases h
      next => cases h

theorem short_of_parse {text : List Char} (h : parse text = .ok v) : v.holdsLong = false := by
  have read : readDocument text = .ok v := by
    unfold parse at h
    cases found : readDocument text with
    | error flaw =>
      rw [found] at h
      cases h
    | ok w =>
      rw [found] at h
      cases h
      rfl
  unfold readDocument at read
  split at read
  next => cases read
  next =>
    obtain ⟨⟨w, c⟩, value, read⟩ := bind_ok read
    dsimp only at read
    split at read
    · cases read
      exact (short_of_read _).1 value
    · cases read

end Preflight.Json
