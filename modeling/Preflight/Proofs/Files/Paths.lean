import Preflight.Proofs.Files

namespace Preflight

namespace Path

theorem not_mem_of_mem_splitOn {c : Char} {cs part : List Char} (h : part ∈ cs.splitOn c) : c ∉ part := by
  induction cs generalizing part with
  | nil =>
    rw [List.splitOn_nil, List.mem_singleton] at h
    simp [h]
  | cons a rest ih =>
    rw [List.splitOn_cons_eq_if_modifyHead] at h
    split at h
    · rcases List.mem_cons.mp h with rfl | h
      · simp
      · exact ih h
    next other =>
      cases hrest : rest.splitOn c with
      | nil => exact absurd hrest (List.splitOn_ne_nil c rest)
      | cons first more =>
        rw [hrest, List.modifyHead_cons] at h
        rcases List.mem_cons.mp h with rfl | h
        · have kept := ih (hrest ▸ List.mem_cons_self)
          simp only [List.mem_cons, not_or]
          refine ⟨?_, kept⟩
          rintro rfl
          simp at other
        · exact ih (hrest ▸ List.mem_cons_of_mem first h)

structure IsName (name : String) : Prop where
  slash : '/' ∉ name.toList
  kept : name ≠ "" ∧ name ≠ "."

instance (name : String) : Decidable (IsName name) :=
  decidable_of_iff ('/' ∉ name.toList ∧ name ≠ "" ∧ name ≠ ".") ⟨fun h => ⟨h.1, h.2⟩, fun h => ⟨h.slash, h.kept⟩⟩

structure IsPlain (p : Path) : Prop where
  root : p.root = "" ∨ p.root = "/" ∨ p.root = "//"
  names : ∀ name ∈ p.names, IsName name

theorem isPlain_ofText (text : String) : (ofText text).IsPlain where
  root := by
    unfold ofText rootOf
    dsimp only
    split <;> simp
  names := by
    intro name hname
    obtain ⟨part, kept⟩ := List.mem_filter.mp hname
    obtain ⟨cs, hcs, rfl⟩ := List.mem_map.mp part
    refine ⟨?_, ?_⟩
    · rw [String.toList_ofList]
      exact not_mem_of_mem_splitOn hcs
    · simpa using kept

theorem isPlain_expandHome {p expanded : Path} {home : Option String} (h : p.expandHome home = some expanded)
    (plain : p.IsPlain) : expanded.IsPlain := by
  unfold expandHome at h
  split at h
  next first rest hnames =>
    split at h
    · exact Option.some.inj h ▸ plain
    · split at h
      · obtain ⟨home, -, h⟩ := Option.bind_eq_some_iff.mp h
        split at h
        · cases h
        · obtain rfl := Option.some.inj h
          refine ⟨(isPlain_ofText home).root, ?_⟩
          intro name hname
          rcases List.mem_append.mp hname with hname | hname
          · exact (isPlain_ofText home).names name hname
          · exact plain.names name (hnames ▸ List.mem_cons_of_mem first hname)
      · cases h
  next => exact Option.some.inj h ▸ plain

def lead (p : Path) : List String := List.replicate p.root.length ""

theorem splitOn_slashes (n : Nat) (cs : List Char) :
    (List.replicate n '/' ++ cs).splitOn '/' = List.replicate n [] ++ cs.splitOn '/' := by
  induction n with
  | zero => rfl
  | succ n ih =>
    rw [List.replicate_succ, List.cons_append, List.splitOn_cons_eq_if_modifyHead, if_pos (by simp), ih,
      List.replicate_succ, List.cons_append]

theorem IsPlain.root_eq {p : Path} (plain : p.IsPlain) : p.root.toList = List.replicate p.root.length '/' := by
  rcases plain.root with h | h | h <;> rw [h] <;> rfl

theorem cut_text {p : Path} (plain : p.IsPlain) (hnames : p.names ≠ []) :
    cut (p.root ++ String.intercalate "/" p.names) = p.lead ++ p.names := by
  have parts : (['/'].intercalate (p.names.map String.toList)).splitOn '/' = p.names.map String.toList := by
    apply List.splitOn_intercalate
    · intro part hpart
      obtain ⟨name, hname, rfl⟩ := List.mem_map.mp hpart
      exact (plain.names name hname).slash
    · simpa using hnames
  have slash : "/".toList = ['/'] := rfl
  rw [cut, String.toList_append, String.toList_intercalate, plain.root_eq, slash, splitOn_slashes, parts, lead]
  simp

theorem toText_eq {p : Path} (plain : p.IsPlain) (hnames : p.names ≠ []) :
    p.toText = p.root ++ String.intercalate "/" p.names := by
  unfold toText
  dsimp only
  rw [if_neg]
  intro empty
  have parts := cut_text plain hnames
  rw [String.isEmpty_iff.mp empty] at parts
  obtain ⟨name, hname⟩ := List.exists_mem_of_ne_nil p.names hnames
  have member : name ∈ cut "" := parts ▸ List.mem_append_right p.lead hname
  exact (plain.names name hname).kept.1 (List.mem_singleton.mp member)

theorem cut_toText {p : Path} (plain : p.IsPlain) (hnames : p.names ≠ []) : cut p.toText = p.lead ++ p.names := by
  rw [toText_eq plain hnames, cut_text plain hnames]

theorem ofText_of_isName {name : String} (h : IsName name) : ofText name = ⟨"", [name]⟩ := by
  have parts : cut name = [name] := by
    rw [cut, List.splitOn_eq_singleton h.slash, List.map_singleton, String.ofList_toList]
  have slashless : name.toList.takeWhile (· == '/') = [] := by
    cases hcs : name.toList with
    | nil => rfl
    | cons c cs =>
      have other : c ≠ '/' := by
        rintro rfl
        exact h.slash (hcs ▸ List.mem_cons_self)
      simp [other]
  have root : rootOf name = "" := by
    unfold rootOf
    rw [slashless]
    rfl
  simp [ofText, parts, root, h.kept]

theorem isPlain_name {name : String} (h : IsName name) : (⟨"", [name]⟩ : Path).IsPlain :=
  ⟨.inl rfl, List.forall_mem_singleton.mpr h⟩

theorem toText_name {name : String} (h : IsName name) : (⟨"", [name]⟩ : Path).toText = name := by
  rw [toText_eq (isPlain_name h) (List.cons_ne_nil name [])]
  simp

theorem child_of_isName (p : Path) {name : String} (h : IsName name) :
    p.child name = { p with names := p.names ++ [name] } := by
  rw [child, ofText_of_isName h]
  rfl

theorem isPlain_child {p : Path} (plain : p.IsPlain) {name : String} (h : IsName name) : (p.child name).IsPlain := by
  rw [child_of_isName p h]
  refine ⟨plain.root, ?_⟩
  intro other hother
  rcases List.mem_append.mp hother with hother | hother
  · exact plain.names other hother
  · exact List.mem_singleton.mp hother ▸ h

theorem cut_child {p : Path} (plain : p.IsPlain) {name : String} (h : IsName name) :
    cut (p.child name).toText = p.lead ++ p.names ++ [name] := by
  have named : (p.child name).names = p.names ++ [name] := by rw [child_of_isName p h]
  have led : (p.child name).lead = p.lead := by
    rw [child_of_isName p h]
    rfl
  rw [cut_toText (isPlain_child plain h) (by simp [named]), led, named, List.append_assoc]

theorem toText_child {p : Path} (plain : p.IsPlain) :
    ∃ before, ∀ name, IsName name → (p.child name).toText = before ++ name := by
  have text {name : String} (h : IsName name) :
      (p.child name).toText = p.root ++ String.intercalate "/" (p.names ++ [name]) := by
    have named : (p.child name).names = p.names ++ [name] := by rw [child_of_isName p h]
    have root : (p.child name).root = p.root := by rw [child_of_isName p h]
    rw [toText_eq (isPlain_child plain h) (by simp [named]), named, root]
  by_cases named : p.names = []
  · refine ⟨p.root, fun name h => ?_⟩
    rw [text h, named, List.nil_append, String.intercalate_singleton]
  · refine ⟨p.root ++ (String.intercalate "/" p.names ++ "/"), fun name h => ?_⟩
    rw [text h, String.intercalate_append_of_ne_nil named (List.cons_ne_nil _ _), String.intercalate_singleton]
    exact String.append_assoc.symm

theorem mem_intercalate {c mark : Char} (hc : c ≠ mark) (parts : List (List Char)) :
    c ∈ [mark].intercalate parts ↔ ∃ part ∈ parts, c ∈ part := by
  induction parts with
  | nil => simp [List.intercalate]
  | cons first rest ih =>
    cases rest with
    | nil => simp
    | cons second more =>
      rw [List.intercalate_cons_cons, List.mem_append, List.mem_append, ih]
      simp [hc]

theorem mem_toText {p : Path} (plain : p.IsPlain) {c : Char} (hslash : c ≠ '/') (hdot : c ≠ '.') :
    c ∈ p.toText.toList ↔ ∃ name ∈ p.names, c ∈ name.toList := by
  have slashes : c ∉ p.root.toList := by
    rw [plain.root_eq]
    exact fun h => hslash (List.eq_of_mem_replicate h)
  have letters : c ∈ (p.root ++ String.intercalate "/" p.names).toList ↔ ∃ name ∈ p.names, c ∈ name.toList := by
    have slash : "/".toList = ['/'] := rfl
    rw [String.toList_append, String.toList_intercalate, slash, List.mem_append, or_iff_right slashes,
      mem_intercalate hslash]
    simp only [List.mem_map]
    constructor
    · rintro ⟨_, ⟨name, hname, rfl⟩, hc⟩
      exact ⟨name, hname, hc⟩
    · rintro ⟨name, hname, hc⟩
      exact ⟨_, ⟨name, hname, rfl⟩, hc⟩
  unfold toText
  dsimp only
  split
  next empty =>
    rw [← letters, String.isEmpty_iff.mp empty]
    have dot : ".".toList = ['.'] := rfl
    simp [dot, hdot]
  next => exact letters

theorem startsWith_of_isName {name : String} (h : IsName name) (rest : List Char) : ¬ ['/'] <+: name.toList ++ rest := by
  cases hcs : name.toList with
  | nil => exact absurd (String.toList_eq_nil_iff.mp hcs) h.kept.1
  | cons c cs =>
    rintro ⟨more, hmore⟩
    obtain ⟨rfl, -⟩ := List.cons.inj hmore
    exact h.slash (hcs ▸ List.mem_cons_self)

theorem startsWith_toText {p : Path} (plain : p.IsPlain) : p.toText.startsWith "/" = p.isRooted := by
  have slash : "/".toList = ['/'] := rfl
  rw [Bool.eq_iff_iff, String.startsWith_string_iff, slash, isRooted]
  by_cases hroot : p.root = ""
  · refine iff_of_false ?_ (by simp [hroot])
    cases hnames : p.names with
    | nil =>
      have here : p.toText = "." := by
        unfold toText
        rw [hroot, hnames]
        rfl
      rw [here]
      decide
    | cons first rest =>
      have named : p.names ≠ [] := by simp [hnames]
      have hfirst := plain.names first (hnames ▸ List.mem_cons_self)
      rw [toText_eq plain named, hroot, String.toList_append, String.toList_intercalate, hnames, List.map_cons]
      cases rest with
      | nil => simpa using startsWith_of_isName hfirst []
      | cons second more =>
        simpa [List.intercalate_cons_cons] using startsWith_of_isName hfirst _
  · refine iff_of_true ?_ (by simpa using hroot)
    have text : p.toText = p.root ++ String.intercalate "/" p.names := by
      unfold toText
      dsimp only
      rw [if_neg]
      simp [hroot]
    rw [text, String.toList_append]
    rcases plain.root with h | h | h
    · exact absurd h hroot
    · rw [h]
      exact List.prefix_append ['/'] _
    · rw [h]
      exact List.prefix_append ['/'] _

end Path

end Preflight
