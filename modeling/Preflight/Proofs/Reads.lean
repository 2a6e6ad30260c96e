import Preflight.Check.Scan

namespace Preflight

variable {σ τ α β : Type}

namespace Fault

theorem ok_bind (a : α) (f : α → Except Fault β) : (.ok a >>= f) = f a := rfl

theorem bind_ok {x : Except Fault α} {f : α → Except Fault β} {b : β} (h : x >>= f = .ok b) :
    ∃ a, x = .ok a ∧ f a = .ok b := by
  cases x with
  | error fault => exact nomatch h
  | ok a => exact ⟨a, rfl, h⟩

theorem map_ok {x : Except Fault α} {f : α → β} {b : β} (h : f <$> x = .ok b) : ∃ a, x = .ok a ∧ f a = b := by
  cases x with
  | error fault => exact nomatch h
  | ok a => exact ⟨a, rfl, Except.ok.inj h⟩

end Fault

namespace Reads

@[simp]
theorem run_pure (a : α) (store : σ) : (pure a : Reads σ α).run store = (.ok a, store) := rfl

@[simp]
theorem run_ofExcept (x : Except Fault α) (store : σ) : (ofExcept x).run store = (x, store) := rfl

theorem run_bind (x : Reads σ α) (f : α → Reads σ β) (store : σ) :
    (x >>= f).run store =
      match x.run store with
      | (.ok a, after) => (f a).run after
      | (.error fault, after) => (.error fault, after) := by
  change (ExceptT.bind x f : Reads σ β) store = _
  simp only [ExceptT.bind, ExceptT.mk, bind, StateT.bind, ExceptT.bindCont, run]
  rcases x store with ⟨_ | a, after⟩ <;> rfl

theorem run_attempt (x : Reads σ α) (store : σ) :
    x.attempt.run store =
      match x.run store with
      | (.ok a, after) => (.ok (.ok a), after)
      | (.error (.storage reason), after) => (.ok (.error reason), after)
      | (.error fault, after) => (.error fault, after) := rfl

theorem bind_ok {x : Reads σ α} {f : α → Reads σ β} {store after : σ} {b : β}
    (h : (x >>= f).run store = (.ok b, after)) :
    ∃ a mid, x.run store = (.ok a, mid) ∧ (f a).run mid = (.ok b, after) := by
  rw [run_bind] at h
  rcases hx : x.run store with ⟨fault | a, mid⟩
  · simp [hx] at h
  · exact ⟨a, mid, rfl, by simpa only [hx] using h⟩

theorem attempt_ok {x : Reads σ α} {store after : σ} {a : α} (h : x.attempt.run store = (.ok (.ok a), after)) :
    x.run store = (.ok a, after) := by
  rw [run_attempt] at h
  split at h <;> simp_all

theorem attempt_error {x : Reads σ α} {store after : σ} {fault : Fault} (h : x.run store = (.error fault, after))
    (unread : ∀ reason, fault ≠ .storage reason) : x.attempt.run store = (.error fault, after) := by
  rw [run_attempt, h]
  cases fault with
  | storage reason => exact absurd rfl (unread reason)
  | _ => rfl

def Catches (x : Reads σ α) : Prop := ∀ store reason, (x.run store).1 ≠ .error (.storage reason)

theorem catches_pure (a : α) : Catches (pure a : Reads σ α) := nofun

theorem catches_bind {x : Reads σ α} {f : α → Reads σ β} (hx : Catches x) (hf : ∀ a, Catches (f a)) :
    Catches (x >>= f) := by
  intro store reason
  rw [run_bind]
  rcases hrun : x.run store with ⟨fault | a, after⟩
  · simpa [hrun] using hx store reason
  · exact hf a after reason

theorem catches_attempt (x : Reads σ α) : Catches x.attempt := by
  intro store reason
  rw [run_attempt]
  split <;> simp_all

/-- Over related stores, `x` and `y` give one answer and leave related stores. -/
def Agree (R : σ → τ → Prop) (x : Reads σ α) (y : Reads τ α) : Prop :=
  ∀ store store', R store store' →
    (x.run store).1 = (y.run store').1 ∧ R (x.run store).2 (y.run store').2

namespace Agree

variable {R : σ → τ → Prop}

theorem pure (a : α) : Agree R (pure a) (pure a) := fun _ _ h => ⟨rfl, h⟩

theorem ofExcept (x : Except Fault α) : Agree R (ofExcept x) (ofExcept x) := fun _ _ h => ⟨rfl, h⟩

theorem bind {x : Reads σ α} {y : Reads τ α} {f : α → Reads σ β} {g : α → Reads τ β} (h : Agree R x y)
    (hfg : ∀ a, Agree R (f a) (g a)) : Agree R (x >>= f) (y >>= g) := by
  intro store store' hs
  obtain ⟨answer, rest⟩ := h store store' hs
  simp only [run_bind]
  rcases hx : x.run store with ⟨a, after⟩
  rcases hy : y.run store' with ⟨b, after'⟩
  simp only [hx, hy] at answer rest
  subst answer
  cases a with
  | error fault => exact ⟨rfl, rest⟩
  | ok a => exact hfg a after after' rest

theorem attempt {x : Reads σ α} {y : Reads τ α} (h : Agree R x y) : Agree R x.attempt y.attempt := by
  intro store store' hs
  obtain ⟨answer, rest⟩ := h store store' hs
  simp only [run_attempt]
  rcases hx : x.run store with ⟨a, after⟩
  rcases hy : y.run store' with ⟨b, after'⟩
  simp only [hx, hy] at answer rest
  subst answer
  split <;> simp_all

end Agree

end Reads

end Preflight
