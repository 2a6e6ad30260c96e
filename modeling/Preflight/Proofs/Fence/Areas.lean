import Preflight.Proofs.Double.Units
import Preflight.Proofs.Faults

/-!
Fences by their areas. A fence permits what is not above its ceiling, lies in some area to stay in if there is any, and
lies in no area to stay out of. Neither the order of the areas nor those without an extent matter; a further area to stay
out of and a lower ceiling permit nothing new, a further area to stay in forbids nothing new if there was one before.
-/
namespace Preflight

namespace Area

variable {lat lon : Float} {areas : List Area}

def hasExtent : Area → Bool
  | polygon p => p.hasExtent
  | circle c => c.hasExtent

def Holds (item : Item) (area : Area) : Prop := area.contains item.lat item.lon = .ok true

theorem anyContains_cons (area : Area) (rest : List Area) : anyContains lat lon (area :: rest) =
    area.contains lat lon >>= fun inside => if inside then .ok true else anyContains lat lon rest := by
  rw [anyContains]
  apply bind_congr
  rintro (_ | _) <;> rfl

theorem anyContains_eq_false :
    anyContains lat lon areas = .ok false ↔ ∀ area ∈ areas, area.contains lat lon = .ok false := by
  induction areas with
  | nil => simp [anyContains]
  | cons area rest ih =>
    rw [anyContains_cons, List.forall_mem_cons, ← ih]
    rcases area.contains lat lon with fault | _ | _ <;> simp [bind, Except.bind]

theorem anyContains_of_decided (decided : ∀ area ∈ areas, ¬ Breaks (area.contains lat lon)) :
    ∃ found, anyContains lat lon areas = .ok found ∧
      (found = true ↔ ∃ area ∈ areas, area.contains lat lon = .ok true) := by
  induction areas with
  | nil => exact ⟨false, rfl, by simp⟩
  | cons area rest ih =>
    rw [List.forall_mem_cons] at decided
    obtain ⟨found, hfound, later⟩ := ih decided.2
    rw [anyContains_cons, hfound]
    cases hfirst : area.contains lat lon with
    | error fault => exact absurd (hfirst ▸ breaks_error fault) decided.1
    | ok inside =>
      cases inside with
      | false => exact ⟨found, rfl, by simp [hfirst, later]⟩
      | true => exact ⟨true, rfl, by simp [hfirst]⟩

end Area

namespace AreaFence

def inclusions (fence : AreaFence) : List Area := fence.areas.filter Area.inclusion

def exclusions (fence : AreaFence) : List Area := fence.areas.filter (!·.inclusion)

variable {fence fence' : AreaFence} {item : Item}

theorem mem_inclusions {area : Area} : area ∈ fence.inclusions ↔ area ∈ fence.areas ∧ area.inclusion = true :=
  List.mem_filter

theorem mem_exclusions {area : Area} : area ∈ fence.exclusions ↔ area ∈ fence.areas ∧ area.inclusion = false := by
  simp [exclusions]

theorem check_eq (fence : AreaFence) (item : Item) : fence.check item =
    if fence.exceedsCeiling item then .ok false
    else if fence.inclusions = [] then (!·) <$> Area.anyContains item.lat item.lon fence.exclusions
    else Area.anyContains item.lat item.lon fence.inclusions >>= fun inside =>
      if inside then (!·) <$> Area.anyContains item.lat item.lon fence.exclusions else .ok false := by
  unfold check
  dsimp only
  rw [← inclusions, ← exclusions]
  cases fence.exceedsCeiling item with
  | true => rfl
  | false =>
    by_cases none : fence.inclusions = []
    · simp only [none]
      rfl
    · have some : (!fence.inclusions.isEmpty) = true := by simpa using none
      rw [some]
      simp only [none]
      rcases Area.anyContains item.lat item.lon fence.inclusions with fault | _ | _ <;> rfl

theorem check_eq_true : fence.check item = .ok true ↔ fence.exceedsCeiling item = false ∧
    (fence.inclusions = [] ∨ Area.anyContains item.lat item.lon fence.inclusions = .ok true) ∧
    ∀ area ∈ fence.exclusions, area.contains item.lat item.lon = .ok false := by
  rw [check_eq, ← Area.anyContains_eq_false]
  cases fence.exceedsCeiling item with
  | true => simp
  | false =>
    by_cases none : fence.inclusions = []
    · rcases Area.anyContains item.lat item.lon fence.exclusions with fault | _ | _ <;> simp [none]
    · rcases Area.anyContains item.lat item.lon fence.inclusions with fault | _ | _ <;>
        rcases Area.anyContains item.lat item.lon fence.exclusions with fault | _ | _ <;> simp [none, bind, Except.bind]

theorem exceedsCeiling_eq_false :
    fence.exceedsCeiling item = false ↔ ∀ limit, fence.ceiling = some limit → ¬ limit < item.altitude := by
  unfold exceedsCeiling
  cases fence.ceiling <;> simp

theorem check_congr (areas : fence'.areas = fence.areas) (ceiling : fence'.ceiling = fence.ceiling) :
    fence'.check item = fence.check item := by
  have high : fence'.exceedsCeiling item = fence.exceedsCeiling item := by
    unfold exceedsCeiling
    rw [ceiling]
  rw [check_eq, check_eq, high, inclusions, inclusions, exclusions, exclusions, areas]

theorem isUsable_eq_false : fence.isUsable = false ↔ fence.areas = [] ∧ fence.ceiling = none := by
  simp [isUsable, areas, and_assoc]

section

variable {polygons polygons' : List Polygon} {circles circles' : List Circle} {ceiling ceiling' : Option Float}
  {homeRequired : Bool} {area : Area}

inductive Kept (polygons : List Polygon) (circles : List Circle) : Area → Prop
  | polygon {p : Polygon} (given : p ∈ polygons) (extent : 3 ≤ p.vertices.length) : Kept polygons circles (.polygon p)
  | circle {c : Circle} (given : c ∈ circles) (extent : 0.0 < c.radius) : Kept polygons circles (.circle c)

theorem mem_areas_build (ceiling : Option Float) (homeRequired : Bool) :
    area ∈ (build polygons circles ceiling homeRequired).areas ↔ Kept polygons circles area := by
  simp only [areas, build, List.mem_append, List.mem_map, List.mem_filter]
  constructor
  · rintro (⟨p, ⟨given, extent⟩, rfl⟩ | ⟨c, ⟨given, extent⟩, rfl⟩)
    · exact .polygon given (of_decide_eq_true extent)
    · exact .circle given (of_decide_eq_true extent)
  · rintro (⟨given, extent⟩ | ⟨given, extent⟩)
    · exact .inl ⟨_, ⟨given, decide_eq_true extent⟩, rfl⟩
    · exact .inr ⟨_, ⟨given, decide_eq_true extent⟩, rfl⟩

structure Permits (polygons : List Polygon) (circles : List Circle) (ceiling : Option Float) (item : Item) : Prop where
  below : ∀ limit, ceiling = some limit → ¬ limit < item.altitude
  within : (∃ area, Kept polygons circles area ∧ area.inclusion = true ∧ area.Holds item) ∨
    ∀ area, Kept polygons circles area → area.inclusion = false
  outside : ∀ area, Kept polygons circles area → area.inclusion = false → ¬ area.Holds item

def Decided (polygons : List Polygon) (circles : List Circle) (item : Item) : Prop :=
  ∀ area, Kept polygons circles area → ¬ Breaks (area.contains item.lat item.lon)

theorem check_build (ceiling : Option Float) (homeRequired : Bool) (decided : Decided polygons circles item) :
    ∃ inside, (build polygons circles ceiling homeRequired).check item = .ok inside ∧
      (inside = true ↔ Permits polygons circles ceiling item) := by
  generalize hfence : build polygons circles ceiling homeRequired = fence
  have kept (area : Area) : area ∈ fence.areas ↔ Kept polygons circles area := hfence ▸ mem_areas_build ceiling homeRequired
  have hceiling : fence.ceiling = ceiling := hfence ▸ rfl
  have all (area : Area) (given : area ∈ fence.areas) : ¬ Breaks (area.contains item.lat item.lon) :=
    decided area ((kept area).mp given)
  obtain ⟨within, hwithin, some⟩ := Area.anyContains_of_decided fun area h => all area (mem_inclusions.mp h).1
  obtain ⟨outside, houtside, other⟩ := Area.anyContains_of_decided fun area h => all area (mem_exclusions.mp h).1
  have permitted : Permits polygons circles ceiling item ↔ fence.exceedsCeiling item = false ∧
      (within = true ∨ fence.inclusions = []) ∧ outside = false := by
    rw [exceedsCeiling_eq_false, hceiling, some, ← Bool.not_eq_true, other, List.eq_nil_iff_forall_not_mem]
    simp only [mem_inclusions, mem_exclusions, kept]
    constructor
    · rintro ⟨below, within, outside⟩
      exact ⟨below, by simpa [and_assoc, Area.Holds] using within, by simpa [and_imp, Area.Holds] using outside⟩
    · rintro ⟨below, within, outside⟩
      exact ⟨below, by simpa [and_assoc, Area.Holds] using within, by simpa [and_imp, Area.Holds] using outside⟩
  rw [permitted, check_eq, hwithin, houtside]
  cases fence.exceedsCeiling item with
  | true => exact ⟨false, rfl, by simp⟩
  | false =>
    by_cases none : fence.inclusions = []
    · exact ⟨!outside, by simp [none], by simp [none]⟩
    · cases within with
      | false => exact ⟨false, by simp [none, bind, Except.bind], by simp [none]⟩
      | true => exact ⟨!outside, by simp [none, bind, Except.bind], by simp⟩

theorem kept_perm (hpolygons : polygons.Perm polygons') (hcircles : circles.Perm circles') :
    Kept polygons' circles' = Kept polygons circles := by
  funext area
  have same : Kept polygons' circles' area ↔ Kept polygons circles area := by
    constructor
    · rintro (⟨given, extent⟩ | ⟨given, extent⟩)
      · exact .polygon (hpolygons.mem_iff.mpr given) extent
      · exact .circle (hcircles.mem_iff.mpr given) extent
    · rintro (⟨given, extent⟩ | ⟨given, extent⟩)
      · exact .polygon (hpolygons.mem_iff.mp given) extent
      · exact .circle (hcircles.mem_iff.mp given) extent
  exact propext same

theorem Permits.of_kept (same : Kept polygons' circles' = Kept polygons circles) :
    Permits polygons' circles' ceiling item ↔ Permits polygons circles ceiling item := by
  constructor
  · rintro ⟨below, within, outside⟩
    exact ⟨below, same ▸ within, same ▸ outside⟩
  · rintro ⟨below, within, outside⟩
    exact ⟨below, same.symm ▸ within, same.symm ▸ outside⟩

theorem check_perm (hpolygons : polygons.Perm polygons') (hcircles : circles.Perm circles')
    (decided : Decided polygons circles item) : (build polygons' circles' ceiling homeRequired).check item =
      (build polygons circles ceiling homeRequired).check item := by
  have same := kept_perm hpolygons hcircles
  have decided' : Decided polygons' circles' item := by
    rw [Decided, same]
    exact decided
  obtain ⟨inside, ended, permits⟩ := check_build ceiling homeRequired decided
  obtain ⟨inside', ended', permits'⟩ := check_build ceiling homeRequired decided'
  rw [Permits.of_kept same, ← permits, ← Bool.eq_iff_iff] at permits'
  rw [ended, ended', permits']

inductive Adds : Area → List Polygon → List Circle → List Polygon → List Circle → Prop
  | polygon (p : Polygon) (before after : List Polygon) (circles : List Circle) :
    Adds (.polygon p) (before ++ after) circles (before ++ p :: after) circles
  | circle (c : Circle) (polygons : List Polygon) (before after : List Circle) :
    Adds (.circle c) polygons (before ++ after) polygons (before ++ c :: after)

section

variable (more : Adds area polygons circles polygons' circles')

include more

theorem areas_of_adds (ceiling : Option Float) (homeRequired : Bool) :
    ∃ before after, (build polygons circles ceiling homeRequired).areas = before ++ after ∧
    (build polygons' circles' ceiling homeRequired).areas =
      before ++ (if area.hasExtent then [area] else []) ++ after := by
  cases more with
  | polygon p before after circles =>
    refine ⟨(before.filter Polygon.hasExtent).map .polygon,
      (after.filter Polygon.hasExtent).map .polygon ++ (circles.filter Circle.hasExtent).map .circle, ?_, ?_⟩
    · simp [areas, build]
    · cases extent : p.hasExtent <;> simp [areas, build, Area.hasExtent, extent]
  | circle c polygons before after =>
    refine ⟨(polygons.filter Polygon.hasExtent).map .polygon ++ (before.filter Circle.hasExtent).map .circle,
      (after.filter Circle.hasExtent).map .circle, ?_, ?_⟩
    · simp [areas, build]
    · cases extent : c.hasExtent <;> simp [areas, build, Area.hasExtent, extent]

theorem kept_of_adds {other : Area} : Kept polygons' circles' other ↔
    Kept polygons circles other ∨ other = area ∧ area.hasExtent = true := by
  obtain ⟨before, after, given, given'⟩ := areas_of_adds more none false
  rw [← mem_areas_build none false, ← mem_areas_build none false, given, given']
  cases area.hasExtent <;> simp [or_comm, or_left_comm]

theorem check_degenerate (extent : area.hasExtent = false) :
    (build polygons' circles' ceiling homeRequired).check item =
      (build polygons circles ceiling homeRequired).check item := by
  obtain ⟨before, after, given, given'⟩ := areas_of_adds more ceiling homeRequired
  have areas : (build polygons' circles' ceiling homeRequired).areas =
      (build polygons circles ceiling homeRequired).areas := by
    rw [given, given', extent]
    simp
  exact check_congr areas rfl

theorem check_exclude (exclusion : area.inclusion = false)
    (inside : (build polygons' circles' ceiling homeRequired).check item = .ok true) :
    (build polygons circles ceiling homeRequired).check item = .ok true := by
  obtain ⟨before, after, given, given'⟩ := areas_of_adds more ceiling homeRequired
  rw [check_eq_true] at inside ⊢
  obtain ⟨below, within, outside⟩ := inside
  have inclusions : (build polygons' circles' ceiling homeRequired).inclusions =
      (build polygons circles ceiling homeRequired).inclusions := by
    rw [AreaFence.inclusions, AreaFence.inclusions, given, given']
    cases area.hasExtent <;> simp [exclusion]
  refine ⟨below, inclusions ▸ within, ?_⟩
  intro other hother
  apply outside
  rw [mem_exclusions, mem_areas_build] at hother ⊢
  exact ⟨(kept_of_adds more).mpr (.inl hother.1), hother.2⟩

theorem check_include (inclusion : area.inclusion = true)
    (before : ∃ other, Kept polygons circles other ∧ other.inclusion = true)
    (decided : Decided polygons' circles' item)
    (inside : (build polygons circles ceiling homeRequired).check item = .ok true) :
    (build polygons' circles' ceiling homeRequired).check item = .ok true := by
  have decided' : Decided polygons circles item := fun other kept => decided other ((kept_of_adds more).mpr (.inl kept))
  obtain ⟨found, ended, permits⟩ := check_build ceiling homeRequired decided'
  obtain ⟨found', ended', permits'⟩ := check_build ceiling homeRequired decided
  obtain ⟨below, within, outside⟩ := permits.mp (Except.ok.inj (ended.symm.trans inside))
  have permitted : Permits polygons' circles' ceiling item := by
    refine ⟨below, .inl ?_, ?_⟩
    · rcases within with ⟨other, kept, stays, holds⟩ | none
      · exact ⟨other, (kept_of_adds more).mpr (.inl kept), stays, holds⟩
      · obtain ⟨other, kept, stays⟩ := before
        exact nomatch stays.symm.trans (none other kept)
    · intro other kept leaves
      rcases (kept_of_adds more).mp kept with kept | ⟨rfl, -⟩
      · exact outside other kept leaves
      · exact nomatch leaves.symm.trans inclusion
  rw [ended', permits'.mpr permitted]

end

def Lowers (ceiling ceiling' : Option Float) : Prop :=
  ∃ limit', ceiling' = some limit' ∧ ∀ limit, ceiling = some limit → limit' ≤ limit

theorem check_lower (lower : Lowers ceiling ceiling')
    (inside : (build polygons circles ceiling' homeRequired).check item = .ok true) :
    (build polygons circles ceiling homeRequired).check item = .ok true := by
  obtain ⟨limit', rfl, below⟩ := lower
  rw [check_eq_true, exceedsCeiling_eq_false] at inside ⊢
  obtain ⟨low, within, outside⟩ := inside
  refine ⟨?_, within, outside⟩
  intro limit hlimit above
  exact low limit' rfl (Double.lt_of_le_of_lt (below limit hlimit) above)

theorem isUsable_build : (build polygons circles ceiling homeRequired).isUsable = false ↔
    (∀ area, ¬ Kept polygons circles area) ∧ ceiling = none := by
  rw [isUsable_eq_false, List.eq_nil_iff_forall_not_mem]
  simp only [mem_areas_build]
  rfl

theorem check_of_not_usable (h : fence.isUsable = false) : fence.check item = .ok true := by
  obtain ⟨areas, ceiling⟩ := isUsable_eq_false.mp h
  rw [check_eq_true, exceedsCeiling_eq_false, ceiling, inclusions, exclusions, areas]
  simp

end

end AreaFence

end Preflight
