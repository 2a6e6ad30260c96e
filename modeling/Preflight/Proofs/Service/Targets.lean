import Mathlib.Data.List.TakeWhile
import Preflight.Service.Endpoint
import Preflight.Proofs.Files.Paths
import Preflight.Proofs.Reads

namespace Preflight.Target

def plainLetters : List Char := "0123456789abcdefghijklmnopqrstuvwxyzABCDEFGHIJKLMNOPQRSTUVWXYZ-".toList

structure IsPlainName (name : String) : Prop where
  given : name ≠ ""
  letters : ∀ c ∈ name.toList, c ∈ plainLetters

theorem isPlainName_iff {name : String} :
    IsPlainName name ↔ name ≠ "" ∧ name.toList.all plainLetters.contains = true := by
  rw [List.all_eq_true]
  constructor
  · exact fun h => ⟨h.given, fun c hc => List.contains_iff_mem.mpr (h.letters c hc)⟩
  · exact fun h => ⟨h.1, fun c hc => List.contains_iff_mem.mp (h.2 c hc)⟩

instance (name : String) : Decidable (IsPlainName name) := decidable_of_iff _ isPlainName_iff.symm

structure IsPlainPath (cs : List Char) : Prop where
  start : cs.head? ≠ some '/'
  letters : ∀ c ∈ cs, c = '/' ∨ c ∈ plainLetters

variable {cs : List Char} {c : Char}

theorem ne_of_plain {other : Char} (h : c = '/' ∨ c ∈ plainLetters) (hother : other ∉ '/' :: plainLetters) : c ≠ other := by
  rintro rfl
  exact hother (by simpa using h)

theorem ascii_of_plain (h : c = '/' ∨ c ∈ plainLetters) : 32 < c.toNat ∧ c.toNat < 128 := by
  have all : ('/' :: plainLetters).all (fun c => decide (32 < c.toNat ∧ c.toNat < 128)) = true := by decide
  exact of_decide_eq_true (List.all_eq_true.mp all c (by simpa using h))

theorem isBreak_of_plain (h : c = '/' ∨ c ∈ plainLetters) : isBreak c = false := by
  have bound := ascii_of_plain h
  unfold isBreak
  rw [beq_false_of_ne (ne_of_plain h (by decide)), beq_false_of_ne (ne_of_plain h (by decide)),
    beq_false_of_ne (ne_of_plain h (by decide))]
  rfl

theorem split_of_plain (h : IsPlainPath cs) : split ('/' :: cs) = .ok { path := '/' :: cs } := by
  have letters : ∀ c ∈ '/' :: cs, c = '/' ∨ c ∈ plainLetters := List.forall_mem_cons.mpr ⟨.inl rfl, h.letters⟩
  have kept : ('/' :: cs).filter (!isBreak ·) = '/' :: cs := by
    rw [List.filter_eq_self]
    intro c hc
    rw [isBreak_of_plain (letters c hc)]
    rfl
  have whole {mark : Char} (hmark : mark ∉ '/' :: plainLetters) : ('/' :: cs).takeWhile (· != mark) = '/' :: cs := by
    rw [List.takeWhile_eq_self_iff]
    intro c hc
    simpa using ne_of_plain (letters c hc) hmark
  have place : splitAuthority ('/' :: cs) = ([], '/' :: cs) := by
    cases cs with
    | nil => rfl
    | cons c rest =>
      have single : c ≠ '/' := by simpa using h.start
      unfold splitAuthority
      split
      next same => simp_all
      · rfl
  unfold split
  have first : ('/' :: cs).dropWhile (fun c => c.toNat ≤ 32) = '/' :: cs := rfl
  have scheme : splitScheme ('/' :: cs) = ([], '/' :: cs) := rfl
  rw [first, kept]
  dsimp only
  rw [scheme]
  dsimp only
  rw [place]
  dsimp only
  rw [whole (by decide), whole (by decide)]
  have query : ('/' :: cs).drop (('/' :: cs).length + 1) = [] := List.drop_eq_nil_of_le (by simp)
  rw [query]
  rfl

theorem plainPath_of_plain {target : String} (htarget : target.toList = '/' :: cs) (h : IsPlainPath cs) :
    plainPath target = .ok ('/' :: cs) := by
  have again : split ('/' :: cs ++ []) = .ok { path := '/' :: cs } := by
    rw [List.append_nil]
    exact split_of_plain h
  unfold plainPath
  rw [htarget, split_of_plain h]
  change split ('/' :: cs ++ []) >>= _ = _
  rw [again]
  change split ('/' :: cs) >>= _ = _
  rw [split_of_plain h]
  rfl

theorem unescape_of_plain (h : ∀ c ∈ cs, c = '/' ∨ c ∈ plainLetters) : unescape cs = cs.map Char.toNat := by
  induction cs with
  | nil => rfl
  | cons c rest ih =>
    obtain ⟨hc, hrest⟩ := List.forall_mem_cons.mp h
    have octet : Utf8.encodeChar c = [c.toNat] := if_pos (ascii_of_plain hc).2
    have other : c ≠ '%' := ne_of_plain hc (by decide)
    rw [unescape, octet, ih hrest]
    · rfl
    · rintro _ _ _ rfl
      exact fun _ => other rfl

end Preflight.Target

namespace Preflight.Utf8

theorem repairFrom_ascii {cs : List Char} (h : ∀ c ∈ cs, c.toNat < 128) :
    repairFrom cs.length (cs.map Char.toNat) = cs := by
  induction cs with
  | nil => rfl
  | cons c rest ih =>
    obtain ⟨hc, hrest⟩ := List.forall_mem_cons.mp h
    have single : announced c.toNat = some 1 := if_pos hc
    have code : Char.ofNat c.toNat = c := Char.ofNat_toNat c
    have found : firstChar 0 c.toNat (rest.map Char.toNat) = .ok (c, 1) := by
      unfold firstChar
      rw [single]
      change (if 0 + 1 = 1 then Except.ok (Char.ofNat c.toNat, 1) else _) = _
      rw [code]
      rfl
    rw [List.length_cons, List.map_cons, repairFrom, found]
    exact congrArg (c :: ·) (ih hrest)

end Preflight.Utf8

namespace Preflight.Target

theorem path_of_plain {cs : List Char} {target : String} (htarget : target.toList = '/' :: cs) (h : IsPlainPath cs) :
    path target = .ok cs := by
  have letters : ∀ c ∈ '/' :: cs, c = '/' ∨ c ∈ plainLetters := List.forall_mem_cons.mpr ⟨.inl rfl, h.letters⟩
  have repaired : Utf8.repair (('/' :: cs).map Char.toNat) = '/' :: cs := by
    rw [Utf8.repair, List.length_map]
    exact Utf8.repairFrom_ascii fun c hc => (ascii_of_plain (letters c hc)).2
  unfold path
  rw [plainPath_of_plain htarget h]
  dsimp only
  rw [unescape_of_plain letters, repaired]
  cases cs with
  | nil => rfl
  | cons c rest =>
    have single : c ≠ '/' := by simpa using h.start
    rw [List.dropWhile_cons_of_pos rfl, List.dropWhile_cons_of_neg (by simpa using single)]

def targetOf (names : List String) : String := "/" ++ String.intercalate "/" names

variable {names : List String}

theorem toList_targetOf (names : List String) :
    (targetOf names).toList = '/' :: ['/'].intercalate (names.map String.toList) := by
  rw [targetOf, String.toList_append, String.toList_intercalate]
  rfl

theorem path_targetOf {names : List String} (h : ∀ name ∈ names, IsPlainName name) :
    path (targetOf names) = .ok (['/'].intercalate (names.map String.toList)) := by
  apply path_of_plain (toList_targetOf names)
  refine ⟨?_, ?_⟩
  · cases names with
    | nil => simp [List.intercalate]
    | cons name rest =>
      have given : name.toList ≠ [] := fun empty =>
        (h name List.mem_cons_self).given (String.toList_eq_nil_iff.mp empty)
      obtain ⟨c, cs, hcs⟩ := List.exists_cons_of_ne_nil given
      have plain := (h name List.mem_cons_self).letters c (hcs ▸ List.mem_cons_self)
      have single : c ≠ '/' := by
        rintro rfl
        exact absurd plain (by decide)
      cases rest <;> simp [List.intercalate_cons_cons, hcs, single]
  · intro c hc
    by_cases slash : c = '/'
    · exact .inl slash
    · obtain ⟨part, hpart, hc⟩ := (Path.mem_intercalate slash _).mp hc
      obtain ⟨name, hname, rfl⟩ := List.mem_map.mp hpart
      exact .inr ((h name hname).letters c hc)

theorem segments_targetOf (hnames : names ≠ []) (h : ∀ name ∈ names, IsPlainName name) :
    segments (['/'].intercalate (names.map String.toList)) = names := by
  have parts : (['/'].intercalate (names.map String.toList)).splitOn '/' = names.map String.toList := by
    apply List.splitOn_intercalate
    · intro part hpart
      obtain ⟨name, hname, rfl⟩ := List.mem_map.mp hpart
      intro slash
      exact absurd ((h name hname).letters _ slash) (by decide)
    · simpa using hnames
  rw [segments, Path.cut, String.toList_ofList, parts, List.map_map]
  simp

end Preflight.Target
