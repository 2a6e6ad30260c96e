import Preflight.Pass
import Preflight.Proofs.Scan

namespace Preflight

variable {σ τ α β : Type}

def Context.settle (ctx : Context σ) (before : Except Fault (Option Outcome)) (start : α)
    (visit : Nat → Item → α → Reads σ (Progress α β)) (close : Progress α β → Outcome) : Reads σ Outcome := do
  match ← Reads.ofExcept before with
  | some outcome => return outcome
  | none => return close (← ctx.scan start visit)

theorem settle_ok {ctx : Context σ} {before : Except Fault (Option Outcome)} {start : α}
    {visit : Nat → Item → α → Reads σ (Progress α β)} {close : Progress α β → Outcome} {store after : σ}
    {outcome : Outcome} (h : (ctx.settle before start visit close).run store = (.ok outcome, after)) :
    before = .ok (some outcome) ∧ after = store ∨
      before = .ok none ∧ ∃ progress, (ctx.scan start visit).run store = (.ok progress, after) ∧
        outcome = close progress := by
  obtain ⟨decided, mid, hbefore, h⟩ := Reads.bind_ok h
  obtain ⟨rfl, rfl⟩ : before = .ok decided ∧ store = mid := by simpa using hbefore
  cases decided with
  | some decided =>
    obtain ⟨rfl, rfl⟩ : decided = outcome ∧ store = after := by simpa using h
    exact .inl ⟨rfl, rfl⟩
  | none =>
    obtain ⟨progress, mid, hscan, h⟩ := Reads.bind_ok h
    obtain ⟨rfl, rfl⟩ : close progress = outcome ∧ mid = after := by simpa using h
    exact .inr ⟨rfl, progress, hscan, rfl⟩

theorem settle_obeys {ctx : Context σ} {before : Except Fault (Option Outcome)} {start : α}
    {visit : Nat → Item → α → Reads σ (Progress α β)} {close : Progress α β → Outcome} {I : Nat → α → Prop}
    {P : β → Prop} {Good : Outcome → Prop} (hbefore : ∀ outcome, before = .ok (some outcome) → Good outcome)
    (hstart : I 0 start)
    (visits : ∀ index < ctx.count, ∀ item seen store progress after, I index seen →
      (visit index item seen).run store = (.ok progress, after) → progress.Keeps I P index)
    (closes : ∀ progress : Progress α β, progress.Obeys I P ctx.count → Good (close progress))
    {store after : σ} {outcome : Outcome}
    (h : (ctx.settle before start visit close).run store = (.ok outcome, after)) : Good outcome := by
  rcases settle_ok h with ⟨decided, -⟩ | ⟨-, progress, hscan, rfl⟩
  · exact hbefore outcome decided
  · exact closes progress (scan_obeys visits hstart hscan)

theorem settle_flags {ctx : Context σ} {before : Except Fault (Option Outcome)} {start : α}
    {visit : Nat → Item → α → Reads σ (Progress α β)} {close : Progress α β → Outcome} {flags : Flags}
    (hbefore : ∀ outcome, before = .ok (some outcome) → outcome.flags = flags)
    (closes : ∀ progress : Progress α β, (close progress).flags = flags) {store after : σ} {outcome : Outcome}
    (h : (ctx.settle before start visit close).run store = (.ok outcome, after)) : outcome.flags = flags := by
  rcases settle_ok h with ⟨decided, -⟩ | ⟨-, progress, -, rfl⟩
  · exact hbefore outcome decided
  · exact closes progress

theorem settle_catches (ctx : Context σ) {before : Except Fault (Option Outcome)} (start : α)
    (visit : Nat → Item → α → Reads σ (Progress α β)) (close : Progress α β → Outcome)
    (h : ∀ reason, before ≠ .error (.storage reason)) : (ctx.settle before start visit close).Catches := by
  apply Reads.catches_bind (x := Reads.ofExcept before) (fun _ reason => h reason)
  intro decided
  cases decided with
  | some outcome => exact Reads.catches_pure outcome
  | none => exact Reads.catches_bind (scan_catches _ _ _ _ _) fun progress => Reads.catches_pure (close progress)

def Context.withRead (ctx : Context σ) (read : Nat → Reads τ Item) : Context τ := { ctx with read }

theorem settle_agree {R : σ → τ → Prop} {ctx : Context σ} {read : Nat → Reads τ Item}
    (reads : ∀ index < ctx.count, Reads.Agree R (ctx.read index) (read index))
    (before : Except Fault (Option Outcome)) (start : α) {visit : Nat → Item → α → Reads σ (Progress α β)}
    {visit' : Nat → Item → α → Reads τ (Progress α β)}
    (visits : ∀ index < ctx.count, ∀ item seen, Reads.Agree R (visit index item seen) (visit' index item seen))
    (close : Progress α β → Outcome) :
    Reads.Agree R (ctx.settle before start visit close) ((ctx.withRead read).settle before start visit' close) := by
  apply (Reads.Agree.ofExcept before).bind
  intro decided
  cases decided with
  | some outcome => exact Reads.Agree.pure outcome
  | none =>
    exact (Reads.Agree.scan reads visits (Nat.zero_add ctx.count) start).bind fun progress =>
      Reads.Agree.pure (close progress)

end Preflight
