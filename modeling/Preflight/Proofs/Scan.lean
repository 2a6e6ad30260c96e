import Preflight.Check.Outcome
import Preflight.Proofs.Reads
import Preflight.Store.Memory

/-!
Scans: the rule by which an invariant of the visits decides what a scan comes to, and scans of a list, which need no
store.
-/
namespace Preflight

variable {σ τ α β : Type}

theorem scan_succ (read : Nat → Reads σ Item) (visit : Nat → Item → α → Reads σ (Progress α β))
    (count index : Nat) (seen : α) (store : σ) :
    (scan read visit (count + 1) index seen).run store =
      match (read index >>= fun item => visit index item seen).attempt.run store with
      | (.ok (.ok (.going next)), after) => (scan read visit count (index + 1) next).run after
      | (.ok (.ok progress), after) => (.ok progress, after)
      | (.ok (.error reason), after) => (.ok (.unreadable reason seen), after)
      | (.error fault, after) => (.error fault, after) := by
  rw [scan, Reads.run_bind]
  rcases (read index >>= fun item => visit index item seen).attempt.run store with ⟨_ | _ | progress, after⟩
  · rfl
  · rfl
  · cases progress <;> rfl

/-- What a visit leads to: `I` holds of what it goes on with, or `Q` of what the scan ends with. -/
def Leads (I : α → σ → Prop) (Q : Except Fault (Progress α β) × σ → Prop) (seen : α) :
    Except Fault (Except String (Progress α β)) × σ → Prop
  | (.ok (.ok (.going next)), after) => I next after
  | (.ok (.ok progress), after) => Q (.ok progress, after)
  | (.ok (.error reason), after) => Q (.ok (.unreadable reason seen), after)
  | (.error fault, after) => Q (.error fault, after)

theorem scan_induction (read : Nat → Reads σ Item) (visit : Nat → Item → α → Reads σ (Progress α β))
    {I : Nat → α → σ → Prop} {Q : Except Fault (Progress α β) × σ → Prop} {last : Nat}
    (visits : ∀ index < last, ∀ seen store, I index seen store →
      Leads (I (index + 1)) Q seen ((read index >>= fun item => visit index item seen).attempt.run store))
    (ends : ∀ seen store, I last seen store → Q (.ok (.going seen), store))
    {count index : Nat} (hlast : index + count = last) (seen : α) (store : σ) (start : I index seen store) :
    Q ((scan read visit count index seen).run store) := by
  induction count generalizing index seen store with
  | zero =>
    obtain rfl : index = last := hlast
    exact ends seen store start
  | succ count ih =>
    rw [scan_succ]
    have visited := visits index (by omega) seen store start
    rcases hvisit : (read index >>= fun item => visit index item seen).attempt.run store with
      ⟨fault | reason | progress, after⟩
    all_goals rw [hvisit] at visited
    · exact visited
    · exact visited
    · -- Only a visit that goes on hands the invariant to the rest of the scan.
      cases progress with
      | going next => exact ih (by omega) next after visited
      | stopped result => exact visited
      | unreadable reason next => exact visited

namespace Progress

def Keeps (I : Nat → α → Prop) (P : β → Prop) (index : Nat) : Progress α β → Prop
  | going next => I (index + 1) next
  | stopped result => P result
  | unreadable _ next => I index next

def Obeys (I : Nat → α → Prop) (P : β → Prop) (last : Nat) : Progress α β → Prop
  | going seen => I last seen
  | stopped result => P result
  | unreadable _ seen => ∃ index ≤ last, I index seen

end Progress

theorem scan_keeps {read : Nat → Reads σ Item} {visit : Nat → Item → α → Reads σ (Progress α β)}
    {I : Nat → α → Prop} {P : β → Prop} {last : Nat}
    (visits : ∀ index < last, ∀ item seen store mid progress after, I index seen →
      (read index).run store = (.ok item, mid) → (visit index item seen).run mid = (.ok progress, after) →
        progress.Keeps I P index)
    {start : α} (hstart : I 0 start) {store after : σ} {progress : Progress α β}
    (h : (scan read visit last 0 start).run store = (.ok progress, after)) : progress.Obeys I P last := by
  have obeyed := scan_induction read visit (I := fun index seen _ => I index seen)
    (Q := fun r => ∀ progress, r.1 = .ok progress → progress.Obeys I P last) ?_ ?_ (Nat.zero_add last)
    start store hstart
  · exact obeyed progress (by rw [h])
  · intro index hi seen store hseen
    rcases hvisit : (read index >>= fun item => visit index item seen).attempt.run store with
      ⟨fault | reason | progress, after⟩
    · nofun
    · rintro progress ⟨⟩
      exact ⟨index, by omega, hseen⟩
    · obtain ⟨item, mid, hread, hvisit⟩ := Reads.bind_ok (Reads.attempt_ok hvisit)
      have kept := visits index hi item seen store mid progress after hseen hread hvisit
      cases progress with
      | going next => exact kept
      | stopped result =>
        rintro progress ⟨⟩
        exact kept
      | unreadable reason next =>
        rintro progress ⟨⟩
        exact ⟨index, by omega, kept⟩
  · rintro seen store hseen progress ⟨⟩
    exact hseen

theorem scan_obeys {read : Nat → Reads σ Item} {visit : Nat → Item → α → Reads σ (Progress α β)}
    {I : Nat → α → Prop} {P : β → Prop} {last : Nat}
    (visits : ∀ index < last, ∀ item seen store progress after, I index seen →
      (visit index item seen).run store = (.ok progress, after) → progress.Keeps I P index)
    {start : α} (hstart : I 0 start) {store after : σ} {progress : Progress α β}
    (h : (scan read visit last 0 start).run store = (.ok progress, after)) : progress.Obeys I P last := by
  apply scan_keeps _ hstart h
  intro index hi item seen _ mid progress after hseen _ hvisit
  exact visits index hi item seen mid progress after hseen hvisit

theorem scan_going {read : Nat → Reads σ Item} {visit : Nat → Item → α → Reads σ (Progress α β)} {count : Nat}
    {start final : α} {store after : σ} (h : (scan read visit count 0 start).run store = (.ok (.going final), after)) :
    ∀ index < count, ∃ before item after, (read index).run before = (.ok item, after) := by
  apply scan_keeps (I := fun last _ => ∀ index < last, ∃ before item after, (read index).run before = (.ok item, after))
    (P := fun _ => True) _ (by simp) h
  intro last _ item seen store mid progress after hseen hread _
  cases progress with
  | going next =>
    intro index hi
    rcases Nat.lt_succ_iff_lt_or_eq.mp hi with hi | rfl
    · exact hseen index hi
    · exact ⟨store, item, mid, hread⟩
  | stopped result => trivial
  | unreadable reason next => exact hseen

theorem scan_catches (read : Nat → Reads σ Item) (visit : Nat → Item → α → Reads σ (Progress α β))
    (count index : Nat) (seen : α) : (scan read visit count index seen).Catches := by
  induction count generalizing index seen with
  | zero => exact Reads.catches_pure _
  | succ count ih =>
    apply Reads.catches_bind (Reads.catches_attempt _)
    intro progress
    split
    · exact Reads.catches_pure _
    · exact ih _ _
    · exact Reads.catches_pure _

theorem Reads.Agree.scan {R : σ → τ → Prop} {read : Nat → Reads σ Item} {read' : Nat → Reads τ Item}
    {visit : Nat → Item → α → Reads σ (Progress α β)} {visit' : Nat → Item → α → Reads τ (Progress α β)}
    {last : Nat} (reads : ∀ index < last, Agree R (read index) (read' index))
    (visits : ∀ index < last, ∀ item seen, Agree R (visit index item seen) (visit' index item seen))
    {count index : Nat} (hlast : index + count = last) (seen : α) :
    Agree R (Preflight.scan read visit count index seen) (Preflight.scan read' visit' count index seen) := by
  induction count generalizing index seen with
  | zero => exact Agree.pure _
  | succ count ih =>
    have hi : index < last := by omega
    apply Agree.bind ((reads index hi).bind fun item => visits index hi item seen).attempt
    intro progress
    split
    · exact Agree.pure _
    · exact ih (by omega) _
    · exact Agree.pure _

def readList (id : String) (items : List Item) : Nat → Reads Unit Item :=
  fun index => .ofExcept (itemAt id index items)

/-- A scan of a list: `visit` is given the items in order, from `index` on. -/
def walk (visit : Nat → Item → α → Except Fault (Progress α β)) :
    Nat → List Item → α → Except Fault (Progress α β)
  | _, [], seen => .ok (.going seen)
  | index, item :: rest, seen =>
    match visit index item seen with
    | .ok (.going next) => walk visit (index + 1) rest next
    | .error (.storage reason) => .ok (.unreadable reason seen)
    | answer => answer

theorem itemAt_eq_ok {id : String} {index : Nat} {items : List Item} {item : Item} :
    itemAt id index items = .ok item ↔ items[index]? = some item := by
  rw [itemAt, if_neg (by omega : ¬ (index : Int) < 0), Int.toNat_natCast]
  cases items[index]? <;> simp

theorem scan_readList (id : String) (items : List Item) (visit : Nat → Item → α → Reads Unit (Progress α β))
    {index : Nat} {rest : List Item} (h : items.drop index = rest) (seen : α) :
    (scan (readList id items) visit rest.length index seen).run () =
      (walk (fun index item seen => ((visit index item seen).run ()).1) index rest seen, ()) := by
  induction rest generalizing index seen with
  | nil => rfl
  | cons item rest ih =>
    have found : itemAt id index items = .ok item := by
      rw [itemAt_eq_ok, ← List.head?_drop, h, List.head?_cons]
    have tail : items.drop (index + 1) = rest := by rw [← List.tail_drop, h, List.tail_cons]
    have visited : (readList id items index >>= fun item => visit index item seen).run () =
        (visit index item seen).run () := by
      rw [Reads.run_bind, readList, found]
      rfl
    rw [List.length_cons, scan_succ, Reads.run_attempt, visited, walk]
    rcases (visit index item seen).run () with ⟨fault | progress, ⟨⟩⟩
    · cases fault <;> rfl
    · cases progress with
      | going next => exact ih tail next
      | stopped result => rfl
      | unreadable reason seen => rfl

section

variable {visit : Nat → Item → α → Except Fault (Progress α β)} {index : Nat} {item : Item} {seen : α}

theorem walk_next {next : α} (h : visit index item seen = .ok (.going next)) (rest : List Item) :
    walk visit index (item :: rest) seen = walk visit (index + 1) rest next := by
  rw [walk, h]

theorem walk_ended {progress : Progress α β} (h : visit index item seen = .ok progress)
    (ended : ∀ next, progress ≠ .going next) (rest : List Item) :
    walk visit index (item :: rest) seen = .ok progress := by
  rw [walk, h]
  cases progress with
  | going next => exact absurd rfl (ended next)
  | _ => rfl

theorem walk_broken {fault : Fault} (h : visit index item seen = .error fault)
    (readable : ∀ reason, fault ≠ .storage reason) (rest : List Item) :
    walk visit index (item :: rest) seen = .error fault := by
  rw [walk, h]
  cases fault with
  | storage reason => exact absurd rfl (readable reason)
  | _ => rfl

variable (visit index item seen)

theorem walk_cases (rest : List Item) :
    (∃ next, visit index item seen = .ok (.going next) ∧
        walk visit index (item :: rest) seen = walk visit (index + 1) rest next) ∨
      (∃ progress, visit index item seen = .ok progress ∧ (∀ next, progress ≠ .going next) ∧
        walk visit index (item :: rest) seen = .ok progress) ∨
      (∃ reason, visit index item seen = .error (.storage reason) ∧
        walk visit index (item :: rest) seen = .ok (.unreadable reason seen)) ∨
      ∃ fault, visit index item seen = .error fault ∧ (∀ reason, fault ≠ .storage reason) ∧
        walk visit index (item :: rest) seen = .error fault := by
  rcases hvisit : visit index item seen with fault | progress
  · by_cases hread : ∃ reason, fault = .storage reason
    · obtain ⟨reason, rfl⟩ := hread
      refine .inr (.inr (.inl ⟨reason, rfl, ?_⟩))
      rw [walk, hvisit]
    · have readable : ∀ reason, fault ≠ .storage reason := not_exists.mp hread
      exact .inr (.inr (.inr ⟨fault, rfl, readable, walk_broken hvisit readable rest⟩))
  · by_cases hgoing : ∃ next, progress = .going next
    · obtain ⟨next, rfl⟩ := hgoing
      exact .inl ⟨next, rfl, walk_next hvisit rest⟩
    · have ended : ∀ next, progress ≠ .going next := not_exists.mp hgoing
      exact .inr (.inl ⟨progress, rfl, ended, walk_ended hvisit ended rest⟩)

end

theorem walk_induction (visit : Nat → Item → α → Except Fault (Progress α β)) (items : List Item)
    {I : List Item → α → Prop} {Q : Except Fault (Progress α β) → Prop}
    (goes : ∀ before item after seen next, items = before ++ item :: after → I before seen →
      visit before.length item seen = .ok (.going next) → I (before ++ [item]) next)
    (settles : ∀ before item after seen progress, items = before ++ item :: after → I before seen →
      visit before.length item seen = .ok progress → (∀ next, progress ≠ .going next) → Q (.ok progress))
    (unread : ∀ before item after seen reason, items = before ++ item :: after → I before seen →
      visit before.length item seen = .error (.storage reason) → Q (.ok (.unreadable reason seen)))
    (breaks : ∀ before item after seen fault, items = before ++ item :: after → I before seen →
      visit before.length item seen = .error fault → Q (.error fault))
    (ends : ∀ seen, I items seen → Q (.ok (.going seen))) {start : α} (hstart : I [] start) :
    Q (walk visit 0 items start) := by
  -- The walk is generalized to start in the middle: after the items before it, at the index that is their number.
  suffices ∀ rest before seen, items = before ++ rest → I before seen → Q (walk visit before.length rest seen) from
    this items [] start rfl hstart
  intro rest
  induction rest with
  | nil =>
    intro before seen hitems hseen
    rw [List.append_nil] at hitems
    exact ends seen (hitems ▸ hseen)
  | cons item rest ih =>
    intro before seen hitems hseen
    rcases walk_cases visit before.length item seen rest with ⟨next, hvisit, walked⟩ |
      ⟨progress, hvisit, ended, walked⟩ | ⟨reason, hvisit, walked⟩ | ⟨fault, hvisit, -, walked⟩
    all_goals rw [walked]
    · have hnext := goes before item rest seen next hitems hseen hvisit
      have later := ih (before ++ [item]) next (by simpa using hitems) hnext
      rwa [List.length_append, List.length_singleton] at later
    · exact settles before item rest seen progress hitems hseen hvisit ended
    · exact unread before item rest seen reason hitems hseen hvisit
    · exact breaks before item rest seen fault hitems hseen hvisit

theorem walk_going {visit : Nat → Item → α → Except Fault (Progress α β)} {items : List Item}
    {I : List Item → α → Prop}
    (visits : ∀ before item after seen next, items = before ++ item :: after → I before seen →
      visit before.length item seen = .ok (.going next) → I (before ++ [item]) next)
    {start final : α} (hstart : I [] start) (h : walk visit 0 items start = .ok (.going final)) : I items final := by
  have walked := walk_induction visit items (Q := fun answer => answer = .ok (.going final) → I items final)
    visits ?_ ?_ ?_ ?_ hstart
  · exact walked h
  · rintro before item after seen progress - - - ended ⟨⟩
    exact absurd rfl (ended final)
  · rintro before item after seen reason - - - ⟨⟩
  · rintro before item after seen fault - - - ⟨⟩
  · rintro seen hseen ⟨⟩
    exact hseen

theorem walk_unit_going {visit : Nat → Item → Unit → Except Fault (Progress Unit β)} {items : List Item} :
    walk visit 0 items () = .ok (.going ()) ↔
      ∀ (index : Nat) item, items[index]? = some item → visit index item () = .ok (.going ()) := by
  suffices ∀ first, walk visit first items () = .ok (.going ()) ↔
      ∀ (index : Nat) item, items[index]? = some item → visit (first + index) item () = .ok (.going ()) by
    simpa only [Nat.zero_add] using this 0
  induction items with
  | nil => simp [walk]
  | cons item rest ih =>
    intro first
    have split : (∀ (index : Nat) other, (item :: rest)[index]? = some other →
          visit (first + index) other () = .ok (.going ())) ↔ visit first item () = .ok (.going ()) ∧
        ∀ (index : Nat) other, rest[index]? = some other → visit (first + 1 + index) other () = .ok (.going ()) := by
      constructor
      · intro h
        exact ⟨h 0 item rfl, fun index other hother => Nat.add_right_comm first 1 index ▸ h (index + 1) other hother⟩
      · rintro ⟨now, later⟩ (_ | index) other hother
        · obtain rfl : item = other := by simpa using hother
          exact now
        · exact Nat.add_right_comm first 1 index ▸ later index other hother
    rw [split, ← ih (first + 1)]
    rcases walk_cases visit first item () rest with ⟨⟨⟩, hvisit, walked⟩ | ⟨progress, hvisit, ended, walked⟩ |
      ⟨reason, hvisit, walked⟩ | ⟨fault, hvisit, -, walked⟩
    all_goals rw [walked, hvisit]
    · simp
    · simp [ended]
    · simp
    · simp

theorem walk_append (visit : Nat → Item → α → Except Fault (Progress α β)) (index : Nat) (first rest : List Item)
    (seen : α) :
    walk visit index (first ++ rest) seen =
      match walk visit index first seen with
      | .ok (.going next) => walk visit (index + first.length) rest next
      | answer => answer := by
  induction first generalizing index seen with
  | nil => rfl
  | cons item first ih =>
    rw [List.cons_append, walk, walk]
    rcases visit index item seen with fault | progress
    · cases fault <;> rfl
    · cases progress with
      | going next =>
        simp only [ih, List.length_cons]
        rw [show index + 1 + first.length = index + (first.length + 1) by omega]
      | stopped result => rfl
      | unreadable reason next => rfl

theorem walk_cons_end (visit : Nat → Item → α → Except Fault (Progress α β)) {before : List Item} {start seen : α}
    (h : walk visit 0 before start = .ok (.going seen)) (item : Item) (after : List Item) :
    walk visit 0 (before ++ item :: after) start = walk visit before.length (item :: after) seen := by
  rw [walk_append, h, Nat.zero_add]

theorem walk_eq_error {visit : Nat → Item → α → Except Fault (Progress α β)} {items : List Item} {start : α}
    {fault : Fault} (h : walk visit 0 items start = .error fault) :
    ∃ before item after seen, items = before ++ item :: after ∧ walk visit 0 before start = .ok (.going seen) ∧
      visit before.length item seen = .error fault := by
  have walked := walk_induction visit items (I := fun before seen => walk visit 0 before start = .ok (.going seen))
    (Q := fun answer => answer = .error fault → ∃ before item after seen, items = before ++ item :: after ∧
      walk visit 0 before start = .ok (.going seen) ∧ visit before.length item seen = .error fault) ?_ ?_ ?_ ?_ ?_ rfl
  · exact walked h
  · intro before item _ seen next _ hwalk hvisit
    rw [walk_cons_end visit hwalk, walk_next hvisit]
    rfl
  · rintro before item after seen progress - - - - ⟨⟩
  · rintro before item after seen reason - - - ⟨⟩
  · rintro before item after seen fault hitems hwalk hvisit ⟨⟩
    exact ⟨before, item, after, seen, hitems, hwalk, hvisit⟩
  · rintro seen - ⟨⟩

theorem walk_settles {visit : Nat → Item → α → Except Fault (Progress α β)} {items : List Item}
    {I : List Item → α → Prop} {P : β → Prop}
    (visits : ∀ before item after seen, items = before ++ item :: after → I before seen →
      (∃ next, visit before.length item seen = .ok (.going next) ∧ I (before ++ [item]) next) ∨
        ∃ result, visit before.length item seen = .ok (.stopped result) ∧ P result)
    {start : α} (hstart : I [] start) :
    (∃ final, walk visit 0 items start = .ok (.going final) ∧ I items final) ∨
      ∃ result, walk visit 0 items start = .ok (.stopped result) ∧ P result := by
  -- As in `walk_induction`, the walk is generalized to start in the middle.
  suffices ∀ rest before seen, items = before ++ rest → I before seen →
      (∃ final, walk visit before.length rest seen = .ok (.going final) ∧ I items final) ∨
        ∃ result, walk visit before.length rest seen = .ok (.stopped result) ∧ P result from
    this items [] start rfl hstart
  intro rest
  induction rest with
  | nil =>
    rintro before seen rfl hseen
    exact .inl ⟨seen, rfl, by rwa [List.append_nil]⟩
  | cons item rest ih =>
    intro before seen hitems hseen
    rcases visits before item rest seen hitems hseen with ⟨next, hvisit, hnext⟩ | ⟨result, hvisit, hresult⟩
    · have walked := ih (before ++ [item]) next (by simpa using hitems) hnext
      rw [walk_next hvisit]
      rwa [List.length_append, List.length_singleton] at walked
    · exact .inr ⟨result, walk_ended hvisit (by simp) rest, hresult⟩

end Preflight
