import Mathlib.Data.List.TakeWhile
import Preflight.Json.Reader

/-!
The grammar of JSON texts, in which the words `NaN`, `Infinity` and `-Infinity` are numbers. What the reader reads is a
text of the grammar.
-/
namespace Preflight.Json

open Preflight.Text (isAsciiDigit)

def AreBlanks (cs : List Char) : Prop := ∀ c ∈ cs, c ∈ [' ', '\t', '\n', '\r']

def AreDigits (cs : List Char) : Prop := ∀ c ∈ cs, '0' ≤ c ∧ c ≤ '9'

def IsHexDigit (c : Char) : Prop := ('0' ≤ c ∧ c ≤ '9') ∨ ('a' ≤ c ∧ c ≤ 'f') ∨ ('A' ≤ c ∧ c ≤ 'F')

inductive AreLetters : List Char → Prop
  | nil : AreLetters []
  | plain {c : Char} {cs : List Char} (apart : c ≠ '"' ∧ c ≠ '\\') (printed : 32 ≤ c.toNat) (rest : AreLetters cs) :
    AreLetters (c :: cs)
  | short {c : Char} {cs : List Char} (known : c ∈ ['"', '\\', '/', 'b', 'f', 'n', 'r', 't']) (rest : AreLetters cs) :
    AreLetters ('\\' :: c :: cs)
  | codePoint {digits cs : List Char} (four : digits.length = 4) (hex : ∀ c ∈ digits, IsHexDigit c)
    (rest : AreLetters cs) : AreLetters ('\\' :: 'u' :: digits ++ cs)

inductive IsString : List Char → Prop
  | quoted {letters : List Char} (h : AreLetters letters) : IsString ('"' :: letters ++ ['"'])

inductive IsWhole : List Char → Prop
  | zero : IsWhole ['0']
  | digits {d : Char} {ds : List Char} (first : d ≠ '0') (all : AreDigits (d :: ds)) : IsWhole (d :: ds)

inductive IsFraction : List Char → Prop
  | none : IsFraction []
  | digits {ds : List Char} (some : ds ≠ []) (all : AreDigits ds) : IsFraction ('.' :: ds)

inductive IsExponent : List Char → Prop
  | none : IsExponent []
  | digits {e : Char} {sign ds : List Char} (mark : e = 'e' ∨ e = 'E') (signed : sign ∈ [[], ['+'], ['-']])
    (some : ds ≠ []) (all : AreDigits ds) : IsExponent (e :: sign ++ ds)

inductive IsNumber : List Char → Prop
  | parts {sign whole fraction exponent : List Char} (signed : sign ∈ [[], ['-']]) (isWhole : IsWhole whole)
    (isFraction : IsFraction fraction) (isExponent : IsExponent exponent) :
    IsNumber (sign ++ whole ++ fraction ++ exponent)

def IsWord (cs : List Char) : Prop := cs ∈ words.map (·.1.toList)

inductive Part where
  | value
  | member
  | several (one : Part)

inductive Derives : Part → List Char → Prop
  | string {cs : List Char} (h : IsString cs) : Derives .value cs
  | number {cs : List Char} (h : IsNumber cs) : Derives .value cs
  | word {cs : List Char} (h : IsWord cs) : Derives .value cs
  | emptyList {blanks : List Char} (h : AreBlanks blanks) : Derives .value ('[' :: blanks ++ [']'])
  | list {blanks items : List Char} (h : AreBlanks blanks) (each : Derives (.several .value) items) :
    Derives .value ('[' :: blanks ++ items ++ [']'])
  | emptyMapping {blanks : List Char} (h : AreBlanks blanks) : Derives .value ('\x7b' :: blanks ++ ['\x7d'])
  | mapping {blanks members : List Char} (h : AreBlanks blanks) (each : Derives (.several .member) members) :
    Derives .value ('\x7b' :: blanks ++ members ++ ['\x7d'])
  | member {key before after v : List Char} (named : IsString key) (hbefore : AreBlanks before)
    (hafter : AreBlanks after) (value : Derives .value v) : Derives .member (key ++ before ++ ':' :: after ++ v)
  | last {one : Part} {cs blanks : List Char} (h : Derives one cs) (hblanks : AreBlanks blanks) :
    Derives (.several one) (cs ++ blanks)
  | next {one : Part} {cs before after rest : List Char} (h : Derives one cs) (hbefore : AreBlanks before)
    (hafter : AreBlanks after) (more : Derives (.several one) rest) :
    Derives (.several one) (cs ++ before ++ ',' :: after ++ rest)

inductive IsDocument : List Char → Prop
  | value {before after v : List Char} (hbefore : AreBlanks before) (hafter : AreBlanks after) (h : Derives .value v) :
    IsDocument (before ++ v ++ after)

theorem ne_nil_of_derives {cs : List Char} (h : Derives .value cs) : cs ≠ [] := by
  cases h with
  | string h =>
    obtain ⟨_⟩ := h
    simp
  | number h =>
    obtain ⟨_, isWhole, _, _⟩ := h
    cases isWhole <;> simp
  | word h =>
    rintro rfl
    exact absurd h (by unfold IsWord; decide)
  | _ => simp

theorem not_isDocument_nil : ¬ IsDocument [] := by
  intro h
  generalize empty : [] = text at h
  obtain ⟨-, -, h⟩ := h
  have parts := List.append_eq_nil_iff.mp empty.symm
  exact ne_nil_of_derives h (List.append_eq_nil_iff.mp parts.1).2

/-- What was read on the way from one place of a text to a later one. -/
def Passes (P : List Char → Prop) (c c' : Cursor) : Prop := ∃ read, c.rest = read ++ c'.rest ∧ P read

variable {c c' : Cursor}

theorem rest_advance (c : Cursor) (n : Nat) : (c.advance n).rest = c.rest.drop n := rfl

theorem bind_ok {α β : Type} {x : Except Flaw α} {f : α → Except Flaw β} {b : β} (h : x >>= f = .ok b) :
    ∃ a, x = .ok a ∧ f a = .ok b := by
  cases x with
  | error flaw => cases h
  | ok a => exact ⟨a, rfl, h⟩

theorem takeWhile_append_drop (p : Char → Bool) (cs : List Char) :
    cs.takeWhile p ++ cs.drop (cs.takeWhile p).length = cs :=
  List.prefix_iff_eq_append.mp (List.takeWhile_prefix p)

theorem passes_skipBlanks (c : Cursor) : Passes AreBlanks c c.skipBlanks := by
  refine ⟨c.rest.takeWhile isBlank, (takeWhile_append_drop isBlank c.rest).symm, ?_⟩
  intro ch hch
  have blank := List.mem_takeWhile_imp hch
  simpa [isBlank, or_assoc] using blank

section

variable {cs : List Char}

theorem isHexDigit_of_hexValue {ch : Char} {n : Nat} (h : hexValue? ch = some n) : IsHexDigit ch := by
  unfold hexValue? at h
  split at h
  next digit => exact .inl digit
  next =>
    split at h
    next small => exact .inr (.inl small)
    next =>
      split at h
      next capital => exact .inr (.inr capital)
      next => cases h

theorem digits_of_readUnit {n : Nat} (h : readUnit? cs = some n) :
    ∃ digits, cs = digits ++ cs.drop 4 ∧ digits.length = 4 ∧ ∀ ch ∈ digits, IsHexDigit ch := by
  unfold readUnit? at h
  split at h
  next x y z w rest =>
    simp only [Option.bind_eq_bind, Option.bind_eq_some_iff] at h
    obtain ⟨_, hx, _, hy, _, hz, _, hw, -⟩ := h
    refine ⟨[x, y, z, w], rfl, rfl, ?_⟩
    simp [isHexDigit_of_hexValue hx, isHexDigit_of_hexValue hy, isHexDigit_of_hexValue hz, isHexDigit_of_hexValue hw]
  next => cases h

def OpensLetters (read : List Char) : Prop := ∀ tail, AreLetters tail → AreLetters (read ++ tail)

theorem opensLetters_codePoint {digits : List Char} (four : digits.length = 4) (hex : ∀ ch ∈ digits, IsHexDigit ch) :
    OpensLetters ('\\' :: 'u' :: digits) := fun _ letters => .codePoint four hex letters

theorem opensLetters_pair {digits digits' rest more : List Char} (start : c.rest = 'u' :: rest)
    (taken : rest = digits ++ rest.drop 4) (four : digits.length = 4) (hex : ∀ ch ∈ digits, IsHexDigit ch)
    (after : rest.drop 4 = '\\' :: 'u' :: more) (taken' : more = digits' ++ more.drop 4) (four' : digits'.length = 4)
    (hex' : ∀ ch ∈ digits', IsHexDigit ch) :
    ∃ read, c.rest = read ++ (c.advance 11).rest ∧ OpensLetters ('\\' :: read) := by
  refine ⟨'u' :: digits ++ '\\' :: 'u' :: digits', ?_, ?_⟩
  · have whole : rest = digits ++ '\\' :: 'u' :: (digits' ++ more.drop 4) := by rw [← taken', ← after, ← taken]
    have left : (c.advance 11).rest = more.drop 4 := by
      have later : rest.drop 10 = (rest.drop 4).drop 6 := by rw [List.drop_drop]
      rw [rest_advance, start, List.drop_succ_cons, later, after]
      rfl
    rw [left, start, whole]
    simp only [List.cons_append, List.append_assoc]
  · intro tail letters
    have both := opensLetters_codePoint four hex _ (opensLetters_codePoint four' hex' tail letters)
    simp only [List.cons_append, List.append_assoc] at both ⊢
    exact both

theorem opensLetters_of_readUnicode {ch : Char} {rest : List Char} (start : c.rest = 'u' :: rest)
    (h : readUnicode c = .ok (ch, c')) : ∃ read, c.rest = read ++ c'.rest ∧ OpensLetters ('\\' :: read) := by
  unfold readUnicode at h
  dsimp only at h
  rw [start, List.drop_succ_cons, List.drop_zero] at h
  split at h
  next => cases h
  split at h
  next => cases h
  next high first =>
    obtain ⟨digits, taken, four, hex⟩ := digits_of_readUnit first
    have single : ∃ read, c.rest = read ++ (c.advance 5).rest ∧ OpensLetters ('\\' :: read) := by
      refine ⟨'u' :: digits, ?_, opensLetters_codePoint four hex⟩
      rw [rest_advance, start, List.drop_succ_cons, List.cons_append, ← taken]
    split at h
    next _ _ more _ after =>
      split at h
      next =>
        cases h
        exact single
      split at h
      next => cases h
      next low second =>
        split at h
        next =>
          obtain ⟨-, rfl⟩ := Prod.mk.inj (Except.ok.inj h)
          obtain ⟨digits', taken', four', hex'⟩ := digits_of_readUnit second
          exact opensLetters_pair start taken four hex after taken' four' hex'
        next =>
          cases h
          exact single
    next =>
      cases h
      exact single

theorem mem_of_shortEscape {e ch : Char} (h : shortEscape? e = some ch) :
    e ∈ ['"', '\\', '/', 'b', 'f', 'n', 'r', 't'] := by
  unfold shortEscape? at h
  split at h
  all_goals simp at h ⊢

def IsClosing (read : List Char) : Prop := ∃ letters, read = letters ++ ['"'] ∧ AreLetters letters

theorem passes_closing_of_opens {read rest : List Char} (opens : OpensLetters read)
    (h : ∃ closing, rest = closing ++ c'.rest ∧ IsClosing closing) :
    ∃ closing, read ++ rest = closing ++ c'.rest ∧ IsClosing closing := by
  obtain ⟨closing, hrest, letters, rfl, h⟩ := h
  refine ⟨read ++ letters ++ ['"'], ?_, read ++ letters, rfl, opens letters h⟩
  simp only [hrest, List.append_assoc]

theorem passes_readString {start fuel : Nat} {done : List Char} {s : String}
    (h : readString start fuel c done = .ok (s, c')) : Passes IsClosing c c' := by
  induction fuel generalizing c done with
  | zero => cases h
  | succ fuel ih =>
    unfold readString at h
    split at h
    next => cases h
    next rest quote =>
      cases h
      refine ⟨['"'], ?_, [], rfl, .nil⟩
      rw [rest_advance, quote]
      rfl
    next => cases h
    next rest escape =>
      cases read : readUnicode (c.advance 1) with
      | error flaw =>
        rw [read] at h
        cases h
      | ok next =>
        obtain ⟨ch, next⟩ := next
        rw [read] at h
        have start : (c.advance 1).rest = 'u' :: rest := by
          rw [rest_advance, escape]
          rfl
        obtain ⟨unit, taken, opens⟩ := opensLetters_of_readUnicode start read
        have closing := passes_closing_of_opens opens (ih h)
        rw [List.cons_append, ← taken, start, ← escape] at closing
        exact closing
    next e rest _ escape =>
      split at h
      next ch known =>
        have opens : OpensLetters ['\\', e] := fun tail letters => .short (mem_of_shortEscape known) letters
        have closing := passes_closing_of_opens opens (ih h)
        rw [rest_advance, escape] at closing
        rw [Passes, escape]
        exact closing
      next => cases h
    next ch rest quote alone _ escape plain =>
      split at h
      next => cases h
      next printed =>
        have unescaped : ch ≠ '\\' := by
          intro backslash
          cases rest with
          | nil => exact alone backslash rfl
          | cons e tail => exact escape e tail backslash rfl
        have opens : OpensLetters [ch] := fun tail letters => .plain ⟨quote, unescaped⟩ (by omega) letters
        have closing := passes_closing_of_opens opens (ih h)
        rw [Passes, plain]
        exact closing

theorem isAsciiDigit_iff {d : Char} : isAsciiDigit d = true ↔ '0' ≤ d ∧ d ≤ '9' := by
  unfold isAsciiDigit
  rw [Bool.and_eq_true, decide_eq_true_iff, decide_eq_true_iff]

theorem areDigits_takeWhile (cs : List Char) : AreDigits (cs.takeWhile isAsciiDigit) := fun _ hd =>
  isAsciiDigit_iff.mp (List.mem_takeWhile_imp hd)

theorem leadingDigits_append (cs : List Char) : leadingDigits cs ++ cs.drop (leadingDigits cs).length = cs := by
  unfold leadingDigits
  split
  · rfl
  · exact takeWhile_append_drop isAsciiDigit cs

theorem isWhole_leadingDigits (h : (leadingDigits cs).isEmpty = false) : IsWhole (leadingDigits cs) := by
  unfold leadingDigits at h ⊢
  split
  next => exact .zero
  next first =>
    have all := areDigits_takeWhile cs
    cases taken : cs.takeWhile isAsciiDigit with
    | nil => simp_all
    | cons d ds =>
      rw [taken] at all
      refine .digits ?_ all
      rintro rfl
      have start := takeWhile_append_drop isAsciiDigit cs
      rw [taken] at start
      exact first _ start.symm

def fractionWidth (cs : List Char) : Nat := if (fractionDigits cs).isEmpty then 0 else (fractionDigits cs).length + 1

theorem isFraction_taken (cs : List Char) : IsFraction (cs.take (fractionWidth cs)) := by
  unfold fractionWidth
  split
  next => exact .none
  next some =>
    unfold fractionDigits at some ⊢
    split at some
    next rest =>
      have all := areDigits_takeWhile rest
      have taken : rest.take (rest.takeWhile isAsciiDigit).length = rest.takeWhile isAsciiDigit :=
        (List.prefix_iff_eq_take.mp (List.takeWhile_prefix _)).symm
      rw [List.take_succ_cons, taken]
      exact .digits (by simpa using some) all
    next => exact absurd rfl some

theorem splitSign_append (cs : List Char) :
    ∃ sign ∈ [[], ['+'], ['-']], cs = sign ++ (Numeral.splitSign cs).2 := by
  unfold Numeral.splitSign
  split
  · exact ⟨['-'], by decide, rfl⟩
  · exact ⟨['+'], by decide, rfl⟩
  · exact ⟨[], by decide, rfl⟩

theorem isExponent_taken {width : Nat} {value : Int} (h : exponentPart cs = some (width, value)) :
    IsExponent (cs.take width) := by
  unfold exponentPart at h
  split at h
  next => cases h
  next e rest =>
    split at h
    next mark =>
      dsimp only at h
      split at h
      next => cases h
      next some =>
        obtain ⟨rfl, -⟩ := Prod.mk.inj (Option.some.inj h)
        obtain ⟨sign, signed, parted⟩ := splitSign_append rest
        generalize (Numeral.splitSign rest).2 = ds at parted some
        have width : 1 + (rest.length - ds.length) + (ds.takeWhile isAsciiDigit).length =
            sign.length + (ds.takeWhile isAsciiDigit).length + 1 := by
          rw [parted, List.length_append]
          omega
        have taken : ds.take (ds.takeWhile isAsciiDigit).length = ds.takeWhile isAsciiDigit :=
          (List.prefix_iff_eq_take.mp (List.takeWhile_prefix _)).symm
        rw [width, List.take_succ_cons, parted, List.take_length_add_append, taken, ← List.cons_append]
        exact .digits mark signed (by simpa using some) (areDigits_takeWhile ds)
    next => cases h

theorem passes_number {sign : List Char} (signed : sign ∈ [[], ['-']]) (parted : c.rest = sign ++ cs)
    (some : (leadingDigits cs).isEmpty = false) (width : Nat)
    (exponent : IsExponent ((c.rest.drop (sign.length + (leadingDigits cs).length +
      fractionWidth (cs.drop (leadingDigits cs).length))).take width)) :
    Passes IsNumber c (c.advance (sign.length + (leadingDigits cs).length +
      fractionWidth (cs.drop (leadingDigits cs).length) + width)) := by
  obtain ⟨after, hafter⟩ : ∃ after, cs.drop (leadingDigits cs).length = after := ⟨_, rfl⟩
  have split : c.rest = sign ++ leadingDigits cs ++ after := by
    rw [parted, ← hafter, List.append_assoc, leadingDigits_append]
  rw [hafter] at exponent ⊢
  have drop (n : Nat) : c.rest.drop (sign.length + (leadingDigits cs).length + n) = after.drop n := by
    rw [split, ← List.length_append, List.drop_length_add_append]
  rw [drop] at exponent
  refine ⟨sign ++ leadingDigits cs ++ after.take (fractionWidth after) ++
    (after.drop (fractionWidth after)).take width, ?_, ?_⟩
  · rw [rest_advance, Nat.add_assoc, drop, ← List.drop_drop, List.append_assoc, List.take_append_drop,
      List.append_assoc, List.take_append_drop, ← split]
  · exact .parts signed (isWhole_leadingDigits some) (isFraction_taken after) exponent

theorem passes_unsigned {sign : List Char} {v x y : Value} {real : Int → Value} {flaw : Flaw} {p q : Prop}
    [Decidable p] [Decidable q] (signed : sign ∈ [[], ['-']]) (parted : c.rest = sign ++ cs) {used : Nat}
    (hused : used = sign.length + (leadingDigits cs).length + fractionWidth (cs.drop (leadingDigits cs).length))
    (h : (if (leadingDigits cs).isEmpty = true then fail expectingValue c.offset
      else match exponentPart (c.rest.drop used) with
        | some (width, e) => .ok (real e, c.advance (used + width))
        | none => if p then if q then .error flaw else .ok (x, c.advance used) else .ok (y, c.advance used)) =
      .ok (v, c')) : Passes IsNumber c c' := by
  subst hused
  split at h
  next => cases h
  next some =>
    have some : (leadingDigits cs).isEmpty = false := by simpa using some
    have number := passes_number signed parted some
    split at h
    next width e exponent =>
      cases h
      exact number width (isExponent_taken exponent)
    next =>
      have whole := number 0 .none
      split at h
      next =>
        split at h
        next => cases h
        next =>
          cases h
          exact whole
      next =>
        cases h
        exact whole

theorem passes_readNumber {v : Value} (h : readNumber c = .ok (v, c')) : Passes IsNumber c c' := by
  unfold readNumber at h
  split at h
  next negative cs parts =>
    split at parts
    next start =>
      cases parts
      exact @passes_unsigned _ _ _ ['-'] _ _ _ _ _ _ _ _ _ (by decide) start _ rfl h
    next =>
      cases parts
      exact @passes_unsigned _ _ _ [] _ _ _ _ _ _ _ _ _ (by decide) rfl _ rfl h

theorem passes_readAtom {v : Value} (h : readAtom c = .ok (v, c')) : Passes (Derives .value) c c' := by
  unfold readAtom at h
  split at h
  next w v' found =>
    cases h
    have start := List.find?_some found
    obtain ⟨rest, hrest⟩ := List.isPrefixOf_iff_prefix.mp start
    refine ⟨w.toList, ?_, .word ?_⟩
    · rw [rest_advance, ← hrest, ← String.length_toList, List.drop_left]
    · exact List.mem_map.mpr ⟨_, List.mem_of_find?_eq_some found, rfl⟩
  next =>
    obtain ⟨read, taken, number⟩ := passes_readNumber h
    exact ⟨read, taken, .number number⟩

end

def IsEnclosed (one : Part) (mark : Char) (read : List Char) : Prop :=
  ∃ each, read = each ++ [mark] ∧ Derives (.several one) each

theorem rest_of_mark {mark : Char} {rest : List Char} (h : c.rest = mark :: rest) :
    c.rest = mark :: (c.advance 1).rest := by
  rw [rest_advance, h, List.drop_one, List.tail_cons]

section

variable {c₁ : Cursor} {one : Part} {mark : Char} {rest : List Char}

theorem passes_enclosed_last (h : Passes (Derives one) c c₁) (closed : c₁.skipBlanks.rest = mark :: rest) :
    Passes (IsEnclosed one mark) c (c₁.skipBlanks.advance 1) := by
  obtain ⟨read, hread, derived⟩ := h
  obtain ⟨blanks, hblanks, areBlanks⟩ := passes_skipBlanks c₁
  refine ⟨read ++ blanks ++ [mark], ?_, _, rfl, .last derived areBlanks⟩
  rw [hread, hblanks, rest_of_mark closed]
  simp only [List.append_assoc, List.singleton_append]

theorem passes_enclosed_next (h : Passes (Derives one) c c₁) (comma : c₁.skipBlanks.rest = ',' :: rest)
    (more : Passes (IsEnclosed one mark) (c₁.skipBlanks.advance 1).skipBlanks c') :
    Passes (IsEnclosed one mark) c c' := by
  obtain ⟨read, hread, derived⟩ := h
  obtain ⟨before, hbefore, areBefore⟩ := passes_skipBlanks c₁
  obtain ⟨after, hafter, areAfter⟩ := passes_skipBlanks (c₁.skipBlanks.advance 1)
  obtain ⟨_, hmore, each, rfl, later⟩ := more
  refine ⟨read ++ before ++ ',' :: after ++ each ++ [mark], ?_, _, rfl, .next derived areBefore areAfter later⟩
  rw [hread, hbefore, rest_of_mark comma, hafter, hmore]
  simp only [List.append_assoc, List.cons_append]

theorem passes_member {key : String} {start fuel : Nat} {rest' : List Char} {c₂ : Cursor} (quote : c.rest = '"' :: rest)
    (named : readString start fuel ⟨c.offset + 1, rest⟩ [] = .ok (key, c₁)) (colon : c₁.skipBlanks.rest = ':' :: rest')
    (h : Passes (Derives .value) (c₁.skipBlanks.advance 1).skipBlanks c₂) : Passes (Derives .member) c c₂ := by
  obtain ⟨_, hkey, letters, rfl, areLetters⟩ := passes_readString named
  obtain ⟨before, hbefore, areBefore⟩ := passes_skipBlanks c₁
  obtain ⟨after, hafter, areAfter⟩ := passes_skipBlanks (c₁.skipBlanks.advance 1)
  obtain ⟨read, hread, derived⟩ := h
  have hkey : rest = letters ++ ['"'] ++ c₁.rest := hkey
  refine ⟨('"' :: letters ++ ['"']) ++ before ++ ':' :: after ++ read, ?_,
    .member (.quoted areLetters) areBefore areAfter derived⟩
  rw [quote, hkey, hbefore, rest_of_mark colon, hafter, hread]
  simp only [List.append_assoc, List.cons_append]

theorem passes_bracketed {opening : Char} {none v : Value} {more : Except Flaw (Value × Cursor)}
    (empty : ∀ {blanks}, AreBlanks blanks → Derives .value (opening :: blanks ++ [mark]))
    (filled : ∀ {blanks each}, AreBlanks blanks → Derives (.several one) each →
      Derives .value (opening :: blanks ++ each ++ [mark])) (start : c.rest = opening :: rest)
    (hmore : more = .ok (v, c') → Passes (IsEnclosed one mark) (c.advance 1).skipBlanks c')
    (h : (if (c.advance 1).skipBlanks.rest.head? = some mark then .ok (none, (c.advance 1).skipBlanks.advance 1)
      else more) = .ok (v, c')) : Passes (Derives .value) c c' := by
  obtain ⟨blanks, hblanks, areBlanks⟩ := passes_skipBlanks (c.advance 1)
  rw [Passes, rest_of_mark start, hblanks]
  split at h
  next closed =>
    cases h
    obtain ⟨rest', hrest⟩ := List.head?_eq_some_iff.mp closed
    refine ⟨opening :: blanks ++ [mark], ?_, empty areBlanks⟩
    rw [rest_of_mark hrest]
    simp only [List.append_assoc, List.cons_append, List.nil_append]
  next =>
    obtain ⟨_, hread, each, rfl, derived⟩ := hmore h
    refine ⟨opening :: blanks ++ each ++ [mark], ?_, filled areBlanks derived⟩
    rw [hread]
    simp only [List.append_assoc, List.cons_append]

end

theorem passes_read (fuel : Nat) :
    (∀ {c c' v}, readValue fuel c = .ok (v, c') → Passes (Derives .value) c c') ∧
    (∀ {c c' done v}, readItems fuel c done = .ok (v, c') → Passes (IsEnclosed .value ']') c c') ∧
    ∀ {c c' done v}, readMembers fuel c done = .ok (v, c') → Passes (IsEnclosed .member '\x7d') c c' := by
  -- On the fuel, for the three readers at once: each of them calls the others with less.
  induction fuel with
  | zero => exact ⟨nofun, nofun, nofun⟩
  | succ fuel ih =>
    obtain ⟨value, items, members⟩ := ih
    refine ⟨?_, ?_, ?_⟩
    · intro c c' v h
      unfold readValue at h
      split at h
      next rest quote =>
        obtain ⟨⟨s, c₁⟩, named, h⟩ := bind_ok h
        cases h
        obtain ⟨_, hkey, letters, rfl, areLetters⟩ := passes_readString named
        refine ⟨'"' :: letters ++ ['"'], ?_, .string (.quoted areLetters)⟩
        rw [quote]
        exact congrArg _ hkey
      next rest start => exact passes_bracketed .emptyList .list start items h
      next rest start => exact passes_bracketed .emptyMapping .mapping start members h
      next => exact passes_readAtom h
    · intro c c' done v h
      unfold readItems at h
      obtain ⟨⟨v, c₁⟩, read, h⟩ := bind_ok h
      dsimp only at h
      split at h
      next rest closed =>
        cases h
        exact passes_enclosed_last (value read) closed
      next rest comma => exact passes_enclosed_next (value read) comma (items h)
      next => cases h
    · intro c c' done v h
      unfold readMembers at h
      split at h
      next rest quote =>
        obtain ⟨⟨key, c₁⟩, named, h⟩ := bind_ok h
        dsimp only at h
        split at h
        next rest' colon =>
          obtain ⟨⟨v, c₂⟩, read, h⟩ := bind_ok h
          have member := passes_member quote named colon (value read)
          dsimp only at h
          split at h
          next rest'' closed =>
            cases h
            exact passes_enclosed_last member closed
          next rest'' comma => exact passes_enclosed_next member comma (members h)
          next => cases h
        next => cases h
      next => cases h

theorem isDocument_of_readDocument {text : List Char} {v : Value} (h : readDocument text = .ok v) :
    IsDocument text := by
  unfold readDocument at h
  split at h
  next => cases h
  next =>
    obtain ⟨⟨v, c⟩, read, h⟩ := bind_ok h
    dsimp only at h
    split at h
    next ended =>
      obtain ⟨before, hbefore, areBefore⟩ := passes_skipBlanks (Cursor.mk 0 text)
      obtain ⟨middle, hmiddle, derived⟩ := (passes_read _).1 read
      obtain ⟨after, hafter, areAfter⟩ := passes_skipBlanks c
      rw [List.isEmpty_iff.mp ended, List.append_nil] at hafter
      have whole : text = before ++ middle ++ after := by
        rw [List.append_assoc, ← hafter, ← hmiddle]
        exact hbefore
      rw [whole]
      exact .value areBefore areAfter derived
    next => cases h

end Preflight.Json
