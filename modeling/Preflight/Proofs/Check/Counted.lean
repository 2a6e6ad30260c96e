import Preflight.Proofs.Check.Settle

namespace Preflight

variable {σ α β : Type}

namespace Reads

def counted (x : Reads σ α) : Reads (σ × Nat) α := fun store =>
  match x.run store.1 with
  | (.error (.storage reason), after) => (.error (.storage reason), after, store.2 + 1)
  | (answer, after) => (answer, after, store.2)

theorem run_counted (x : Reads σ α) (store : σ × Nat) :
    x.counted.run store =
      match x.run store.1 with
      | (.error (.storage reason), after) => (.error (.storage reason), after, store.2 + 1)
      | (answer, after) => (answer, after, store.2) := rfl

theorem agree_counted (x : Reads σ α) : Agree (fun store (counted : σ × Nat) => counted.1 = store) x x.counted := by
  rintro store ⟨_, n⟩ rfl
  rw [run_counted]
  split
  next h => simp [h]
  next h => simp [h]

def Clean (x : Reads (σ × Nat) α) : Prop :=
  ∀ store answer after, x.run store = (answer, after) →
    after.2 = store.2 ∨ ∃ reason, answer = .error (.storage reason)

theorem clean_ofExcept (x : Except Fault α) : Clean (σ := σ) (ofExcept x) := by
  rintro store answer after ⟨⟩
  exact .inl rfl

theorem clean_counted (x : Reads σ α) : x.counted.Clean := by
  intro store answer after h
  rw [run_counted] at h
  split at h
  next reason _ _ =>
    rcases h with ⟨⟩
    exact .inr ⟨reason, rfl⟩
  · rcases h with ⟨⟩
    exact .inl rfl

theorem bind_of_clean {x : Reads (σ × Nat) α} {f : α → Reads (σ × Nat) β} {Q : Except Fault β → Prop} (hx : x.Clean)
    (failed : ∀ reason, Q (.error (.storage reason)))
    (hf : ∀ a store answer after, (f a).run store = (answer, after) → after.2 = store.2 ∨ Q answer)
    {store after : σ × Nat} {answer : Except Fault β} (h : (x >>= f).run store = (answer, after)) :
    after.2 = store.2 ∨ Q answer := by
  rw [run_bind] at h
  rcases hrun : x.run store with ⟨fault | a, mid⟩
  · rw [hrun] at h
    rcases h with ⟨⟩
    rcases hx store _ _ hrun with same | ⟨reason, hfault⟩
    · exact .inl same
    · obtain rfl := Except.error.inj hfault
      exact .inr (failed reason)
  · rw [hrun] at h
    have same : mid.2 = store.2 := (hx store _ _ hrun).resolve_right nofun
    rw [← same]
    exact hf a mid answer after h

theorem clean_bind {x : Reads (σ × Nat) α} {f : α → Reads (σ × Nat) β} (hx : x.Clean) (hf : ∀ a, (f a).Clean) :
    (x >>= f).Clean := by
  intro store answer after h
  exact bind_of_clean hx (fun reason => ⟨reason, rfl⟩) hf h

def Honest (x : Reads (σ × Nat) (Progress α β)) : Prop :=
  ∀ store answer after, x.run store = (answer, after) →
    after.2 = store.2 ∨ ∃ reason, answer = .error (.storage reason) ∨ ∃ seen, answer = .ok (.unreadable reason seen)

theorem honest_of_clean {x : Reads (σ × Nat) (Progress α β)} (h : x.Clean) : x.Honest := by
  intro store answer after hrun
  rcases h store answer after hrun with same | ⟨reason, failed⟩
  · exact .inl same
  · exact .inr ⟨reason, .inl failed⟩

theorem honest_ofExcept (x : Except Fault (Progress α β)) : Honest (σ := σ) (ofExcept x) :=
  honest_of_clean (clean_ofExcept x)

theorem honest_bind {γ : Type} {x : Reads (σ × Nat) γ} {f : γ → Reads (σ × Nat) (Progress α β)} (hx : x.Clean)
    (hf : ∀ a, (f a).Honest) : (x >>= f).Honest := by
  intro store answer after h
  apply bind_of_clean hx (Q := fun answer : Except Fault (Progress α β) =>
    ∃ reason, answer = .error (.storage reason) ∨ ∃ seen, answer = .ok (.unreadable reason seen)) _ hf h
  exact fun reason => ⟨reason, .inl rfl⟩

theorem honest_attempt {γ : Type} {x : Reads (σ × Nat) γ} {close : Except String γ → Progress α β} (hx : x.Clean)
    (hclose : ∀ reason, ∃ seen, close (.error reason) = .unreadable reason seen) :
    Honest (x.attempt >>= fun answer => pure (close answer)) := by
  intro store answer after h
  rw [run_bind, run_attempt] at h
  rcases hrun : x.run store with ⟨fault | a, mid⟩
  · have clean := hx store _ mid hrun
    rw [hrun] at h
    cases fault with
    | storage reason =>
      -- The failed read is caught by the attempt, and shows in the progress only.
      rcases h with ⟨⟩
      obtain ⟨seen, closed⟩ := hclose reason
      exact .inr ⟨reason, .inr ⟨seen, congrArg Except.ok closed⟩⟩
    | _ =>
      rcases h with ⟨⟩
      exact .inl (clean.resolve_right (by simp))
  · have clean := hx store _ mid hrun
    rw [hrun] at h
    rcases h with ⟨⟩
    exact .inl (clean.resolve_right nofun)

end Reads

theorem scan_honest {read : Nat → Reads (σ × Nat) Item} {visit : Nat → Item → α → Reads (σ × Nat) (Progress α β)}
    (reads : ∀ index, (read index).Clean) (visits : ∀ index item seen, (visit index item seen).Honest)
    {count : Nat} {start : α} {store after : σ × Nat} {answer : Except Fault (Progress α β)}
    (h : (scan read visit count 0 start).run store = (answer, after)) :
    after.2 = store.2 ∨ ∃ reason seen, answer = .ok (.unreadable reason seen) := by
  have honest := scan_induction read visit (I := fun _ _ counted => counted.2 = store.2)
    (Q := fun r => r.2.2 = store.2 ∨ ∃ reason seen, r.1 = .ok (.unreadable reason seen))
    ?_ ?_ (Nat.zero_add count) start store rfl
  · rwa [h] at honest
  · intro index _ seen mid hmid
    have visited := Reads.honest_bind (reads index) (fun item => visits index item seen) mid
    rw [Reads.run_attempt]
    rcases hvisit : (read index >>= fun item => visit index item seen).run mid with ⟨fault | progress, last⟩
    · cases fault with
      | storage reason => exact .inr ⟨reason, seen, rfl⟩
      | _ => exact .inl (((visited _ last hvisit).resolve_right (by simp)).trans hmid)
    · cases progress with
      | going next => exact ((visited _ last hvisit).resolve_right (by simp)).trans hmid
      | stopped result => exact .inl (((visited _ last hvisit).resolve_right (by simp)).trans hmid)
      | unreadable reason next => exact .inr ⟨reason, next, rfl⟩
  · exact fun seen mid hmid => .inl hmid

theorem scan_counted {read : Nat → Reads σ Item} {test : Nat → Item → α → Progress α β}
    (tests : ∀ index item seen reason next, test index item seen ≠ .unreadable reason next) {count : Nat} {start : α}
    {store after : σ × Nat} {progress : Progress α β}
    (h : (scan (fun index => (read index).counted) (fun index item seen => .ofExcept (.ok (test index item seen)))
      count 0 start).run store = (.ok progress, after)) :
    store.2 < after.2 ↔ ∃ reason seen, progress = .unreadable reason seen := by
  have counts := scan_induction (fun index => (read index).counted)
    (fun index item seen => .ofExcept (.ok (test index item seen))) (I := fun _ _ counted => counted.2 = store.2)
    (Q := fun r => ∀ progress, r.1 = .ok progress →
      (store.2 < r.2.2 ↔ ∃ reason seen, progress = .unreadable reason seen))
    ?_ ?_ (Nat.zero_add count) start store rfl
  · rw [h] at counts
    exact counts progress rfl
  · intro index _ seen mid hmid
    rw [Reads.run_attempt, Reads.run_bind, Reads.run_counted]
    rcases (read index).run mid.1 with ⟨fault | item, before⟩
    · cases fault with
      | storage reason =>
        rintro progress ⟨⟩
        simp [hmid]
      | _ => nofun
    · have visited := tests index item seen
      simp only [Reads.run_ofExcept]
      cases hp : test index item seen with
      | going next => exact hmid
      | stopped result =>
        rintro progress ⟨⟩
        simp [hmid]
      | unreadable reason next => exact absurd hp (visited reason next)
  · rintro seen mid hmid progress ⟨⟩
    simp [hmid]

def Context.counted (ctx : Context σ) : Context (σ × Nat) := ctx.withRead fun index => (ctx.read index).counted

theorem settle_counted {ctx : Context σ} {before : Except Fault (Option Outcome)} {start : α}
    {visit : Nat → Item → α → Reads (σ × Nat) (Progress α β)} {close : Progress α β → Outcome}
    (visits : ∀ index item seen, (visit index item seen).Honest) {store after : σ × Nat} {answer : Except Fault Outcome}
    (h : (ctx.counted.settle before start visit close).run store = (answer, after)) (hfailed : store.2 < after.2) :
    ∃ reason seen, answer = .ok (close (.unreadable reason seen)) := by
  rcases before with fault | _ | decided
  · rcases h with ⟨⟩
    exact absurd hfailed (Nat.lt_irrefl _)
  · change (ctx.counted.scan start visit >>= fun progress => pure (close progress)).run store = _ at h
    rw [Reads.run_bind] at h
    rcases hscan : (ctx.counted.scan start visit).run store with ⟨scanned, last⟩
    have honest := scan_honest (fun index => Reads.clean_counted (ctx.read index)) visits hscan
    rw [hscan] at h
    rcases honest with same | ⟨reason, seen, rfl⟩
    · rcases scanned with fault | progress <;> rcases h with ⟨⟩ <;> omega
    · rcases h with ⟨⟩
      exact ⟨reason, seen, rfl⟩
  · rcases h with ⟨⟩
    exact absurd hfailed (Nat.lt_irrefl _)

end Preflight
