import Preflight.Proofs.Pass.Stages

namespace Preflight

variable {σ α β : Type} {fault : Fault} {store : σ}

section

variable {read : Nat → Reads σ Item} {visit : Nat → Item → α → Reads σ (Progress α β)} {count : Nat} (seen : α)
  (failed : (read 0).run store = (.error fault, store)) (pos : 0 < count)

include failed pos

theorem scan_unread {reason : String} (unread : fault = .storage reason) :
    (scan read visit count 0 seen).run store = (.ok (.unreadable reason seen), store) := by
  obtain ⟨rest, rfl⟩ := Nat.exists_eq_succ_of_ne_zero (by omega : count ≠ 0)
  rw [scan_succ, Reads.run_attempt, Reads.run_bind, failed, unread]

theorem scan_broken (broken : ∀ reason, fault ≠ .storage reason) :
    (scan read visit count 0 seen).run store = (.error fault, store) := by
  obtain ⟨rest, rfl⟩ := Nat.exists_eq_succ_of_ne_zero (by omega : count ≠ 0)
  have visited : (read 0 >>= fun item => visit 0 item seen).run store = (.error fault, store) := by
    rw [Reads.run_bind, failed]
  rw [scan_succ, Reads.attempt_error visited broken]

end

def Limit.IsSettled (limit : Limit) : Prop := ∃ off, limit.isOff = .ok off

theorem Limit.IsSettled.whenOff {limit : Limit} (h : limit.IsSettled) (flags : Flags) :
    ∃ decided, Check.whenOff limit flags = .ok decided := by
  obtain ⟨off, hoff⟩ := h
  rw [Check.whenOff, hoff]
  exact ⟨_, rfl⟩

structure Limits.AreSettled (limits : Limits) : Prop where
  first : limits.first.IsSettled
  between : limits.between.IsSettled

def EndsOrBreaks (fault : Fault) (store : σ) (check : Reads σ Outcome) : Prop :=
  (∃ outcome, check.run store = (.ok outcome, store)) ∨
    check.run store = (.error fault, store) ∧ ∀ reason, fault ≠ .storage reason

section

variable {ctx : Context σ} {limits : Limits} {flags : Flags} (failed : (ctx.read 0).run store = (.error fault, store))
  (pos : 0 < ctx.count)

include failed pos

section

variable (start : α) (visit : Nat → Item → α → Reads σ (Progress α β)) (close : Progress α β → Outcome)

theorem settle_unread {reason : String} (unread : fault = .storage reason) :
    (ctx.settle (.ok none) start visit close).run store = (.ok (close (.unreadable reason start)), store) := by
  have scanned : (ctx.scan start visit).run store = _ := scan_unread start failed pos unread
  change (ctx.scan start visit >>= fun progress => pure (close progress)).run store = _
  rw [Reads.run_bind, scanned]
  rfl

theorem settle_broken (broken : ∀ reason, fault ≠ .storage reason) :
    (ctx.settle (.ok none) start visit close).run store = (.error fault, store) := by
  have scanned : (ctx.scan start visit).run store = _ := scan_broken start failed pos broken
  change (ctx.scan start visit >>= fun progress => pure (close progress)).run store = _
  rw [Reads.run_bind, scanned]

theorem settle_failed {before : Except Fault (Option Outcome)} (decided : ∃ outcome, before = .ok outcome) :
    EndsOrBreaks fault store (ctx.settle before start visit close) := by
  obtain ⟨outcome, rfl⟩ := decided
  cases outcome with
  | some outcome => exact .inl ⟨outcome, rfl⟩
  | none =>
    by_cases unread : ∃ reason, fault = .storage reason
    · obtain ⟨reason, unread⟩ := unread
      exact .inl ⟨_, settle_unread failed pos start visit close unread⟩
    · have broken := not_exists.mp unread
      exact .inr ⟨settle_broken failed pos start visit close broken, broken⟩

end

theorem check_failed (settled : limits.AreSettled) (stage : Stage) (flags : Flags) :
    EndsOrBreaks fault store (ctx.check limits stage flags) := by
  cases stage with
  | first =>
    change EndsOrBreaks fault store (Pass.first limits.first ctx flags)
    rw [Check.first_eq]
    apply settle_failed failed pos _ _ _
    split
    · exact settled.first.whenOff flags
    · exact ⟨_, rfl⟩
  | validity =>
    change EndsOrBreaks fault store (Check.validity ctx flags)
    rw [Check.validity_eq]
    exact settle_failed failed pos _ _ _ ⟨none, rfl⟩
  | between =>
    change EndsOrBreaks fault store (Check.betweenDistance limits.between ctx flags)
    rw [Check.betweenDistance_eq]
    exact settle_failed failed pos _ _ _ (settled.between.whenOff flags)
  | fence =>
    change EndsOrBreaks fault store (Check.fence ctx flags)
    rw [Check.fence_eq]
    exact settle_failed failed pos _ _ _ ⟨_, rfl⟩
  | homeAltitude =>
    change EndsOrBreaks fault store (Check.homeAltitude ctx flags)
    rw [Check.homeAltitude_eq]
    exact settle_failed failed pos _ _ _ ⟨none, rfl⟩
  | takeoff =>
    change EndsOrBreaks fault store (Check.takeoff ctx flags)
    rw [Check.takeoff_eq]
    exact settle_failed failed pos _ _ _ ⟨none, rfl⟩
  | landing =>
    change EndsOrBreaks fault store (Check.landing ctx.vehicle.airframe ctx flags)
    cases ctx.vehicle.airframe with
    | rotaryWing =>
      change EndsOrBreaks fault store (Check.anyLanding ctx flags)
      rw [Check.anyLanding_eq]
      exact settle_failed failed pos _ _ _ ⟨none, rfl⟩
    | fixedWing =>
      change EndsOrBreaks fault store (Check.landingSequence _ ctx flags)
      rw [Check.landingSequence_eq]
      exact settle_failed failed pos _ _ _ ⟨none, rfl⟩
    | vtol =>
      change EndsOrBreaks fault store (Check.landingSequence _ ctx flags)
      rw [Check.landingSequence_eq]
      exact settle_failed failed pos _ _ _ ⟨none, rfl⟩
  | presence => exact .inl ⟨_, Check.presence_run ctx flags store⟩

theorem runs_failed (settled : limits.AreSettled) (stages : List Stage) (flags : Flags) :
    ∀ r ∈ Pass.runsFrom ctx limits stages flags store, r.before = store ∧
      ((∃ outcome, r.answer = .ok outcome) ∨ r.answer = .error fault ∧ ∀ reason, fault ≠ .storage reason) := by
  induction stages generalizing flags with
  | nil => simp [Pass.runsFrom]
  | cons stage rest ih =>
    rw [Pass.runsFrom]
    rcases check_failed failed pos settled stage flags with ⟨outcome, ran⟩ | ⟨ran, broken⟩
    · rw [ran]
      dsimp only
      rw [List.forall_mem_cons]
      exact ⟨⟨rfl, .inl ⟨outcome, rfl⟩⟩, ih outcome.flags⟩
    · rw [ran]
      intro r hr
      obtain rfl := List.mem_singleton.mp hr
      exact ⟨rfl, .inr ⟨rfl, broken⟩⟩

end

namespace Checker

variable {c : Checker σ} {mission : Mission} {limits : Limits} (count : 0 < mission.count)
  (failed : (c.read mission.storageId 0).run store = (.error fault, store)) (settled : limits.AreSettled)

include count failed settled

theorem validity_failed (stages : (Pass.runs (c.context mission) limits store).map (·.stage) = Stage.all) :
    ∃ r ∈ Pass.runs (c.context mission) limits store,
      (Check.validity (c.context mission) r.flags).run store = (r.answer, r.after) := by
  have validity : Stage.validity ∈ (Pass.runs (c.context mission) limits store).map (·.stage) := by
    rw [stages]
    decide
  obtain ⟨r, hr, stage⟩ := List.mem_map.mp validity
  have pos : 0 < (c.context mission).count := Int.pos_iff_toNat_pos.mp count
  have ran := Pass.run_of_mem_runsFrom hr
  rw [stage, (runs_failed failed pos settled Stage.all {} r hr).1] at ran
  exact ⟨r, hr, ran⟩

theorem verdict_unread {reason : String} (unread : fault = .storage reason) :
    ∃ verdict, (c.check mission limits store).verdict = .ok verdict ∧ verdict.accepted = false ∧
      ∃ d ∈ verdict.diagnostics, d.code = "mission_storage_failure" := by
  have pos : 0 < (c.context mission).count := Int.pos_iff_toNat_pos.mp count
  rcases traced_check count with ⟨ended, -, stages⟩ | ⟨other, -, last, hlast, answer⟩
  · obtain ⟨r, hr, ran⟩ := validity_failed count failed settled stages
    rw [Check.validity_eq, settle_unread failed pos _ _ _ unread] at ran
    have answer : r.answer = .ok (.unreadable r.flags reason false) := (Prod.mk.inj ran).1.symm
    refine ⟨_, ended, ?_, (Finding.storageFailure false).diagnostic, ?_, rfl⟩
    · change (Pass.runs (c.context mission) limits store).all Run.passed = false
      rw [List.all_eq_false]
      exact ⟨r, hr, by simp [Run.passed_eq answer, Outcome.unreadable, Outcome.fail]⟩
    · change _ ∈ (Pass.runs (c.context mission) limits store).flatMap Run.diagnostics
      rw [List.mem_flatMap]
      refine ⟨r, hr, ?_⟩
      rw [Run.diagnostics_eq answer]
      exact List.mem_singleton_self _
  · rcases (runs_failed failed pos settled Stage.all {} last hlast).2 with ⟨outcome, ended⟩ | ⟨-, broken⟩
    · cases ended.symm.trans answer
    · exact absurd unread (broken reason)

theorem verdict_broken (broken : ∀ reason, fault ≠ .storage reason) :
    (c.check mission limits store).verdict = .error fault := by
  have pos : 0 < (c.context mission).count := Int.pos_iff_toNat_pos.mp count
  rcases traced_check count with ⟨-, answers, stages⟩ | ⟨other, verdict, last, hlast, answer⟩
  · obtain ⟨r, hr, ran⟩ := validity_failed count failed settled stages
    rw [Check.validity_eq, settle_broken failed pos _ _ _ broken] at ran
    obtain ⟨outcome, answer⟩ := answers r hr
    cases (Prod.mk.inj ran).1.trans answer
  · rcases (runs_failed failed pos settled Stage.all {} last hlast).2 with ⟨outcome, ended⟩ | ⟨ended, -⟩
    · cases ended.symm.trans answer
    · rw [verdict, Except.error.inj (ended.symm.trans answer)]

end Checker

end Preflight
