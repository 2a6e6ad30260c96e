import Preflight.Proofs.Check.LandingList
import Preflight.Proofs.Pass.Stages

namespace Preflight

variable {σ τ : Type} {ctx : Context σ} {limits : Limits}

namespace Pass

def Clears (ctx : Context σ) (limits : Limits) : List Stage → Flags → σ → Prop
  | [], _, _ => True
  | stage :: rest, flags, store =>
    ∃ outcome after, (ctx.check limits stage flags).run store = (.ok outcome, after) ∧ outcome.passed = true ∧
      Clears ctx limits rest outcome.flags after

theorem clears_of_runs {stages : List Stage} {flags : Flags} {store : σ}
    (h : ∀ r ∈ runsFrom ctx limits stages flags store, r.passed = true) : Clears ctx limits stages flags store := by
  induction stages generalizing flags store with
  | nil => trivial
  | cons stage rest ih =>
    rw [runsFrom] at h
    rcases hrun : (ctx.check limits stage flags).run store with ⟨fault | outcome, after⟩
    · rw [hrun] at h
      have broken := h _ (List.mem_singleton_self _)
      cases broken
    · rw [hrun] at h
      have passed : outcome.passed = true := h ⟨stage, flags, store, .ok outcome, after⟩ (by simp)
      exact ⟨outcome, after, hrun, passed, ih fun r hr => h r (List.mem_cons_of_mem _ hr)⟩

theorem clears_agree {R : σ → τ → Prop} {read : Nat → Reads τ Item}
    (reads : ∀ index < ctx.count, Reads.Agree R (ctx.read index) (read index)) {stages : List Stage} {flags : Flags}
    {store : σ} {store' : τ} (hstore : R store store') (h : Clears ctx limits stages flags store) :
    Clears (ctx.withRead read) limits stages flags store' := by
  induction stages generalizing flags store store' with
  | nil => trivial
  | cons stage rest ih =>
    obtain ⟨outcome, after, ran, passed, cleared⟩ := h
    obtain ⟨answer, hafter⟩ := Context.check_agree reads limits stage flags store store' hstore
    rw [ran] at answer hafter
    exact ⟨outcome, _, Prod.ext answer.symm rfl, passed, ih hafter cleared⟩

theorem runAll_related {R : σ → τ → Prop} {read : Nat → Reads τ Item}
    (reads : ∀ index < ctx.count, Reads.Agree R (ctx.read index) (read index)) (stages : List Stage) (flags : Flags)
    {store : σ} {store' : τ} (hstore : R store store') {trace : Trace σ} {trace' : Trace τ}
    (htrace : runAll ctx (stages.map (Stage.check ctx.vehicle.airframe limits)) flags store = trace)
    (htrace' : runAll (ctx.withRead read) (stages.map (Stage.check ctx.vehicle.airframe limits)) flags store' = trace') :
    trace.outcomes = trace'.outcomes ∧ trace.fault = trace'.fault ∧ R trace.store trace'.store := by
  subst htrace htrace'
  induction stages generalizing flags store store' with
  | nil => exact ⟨rfl, rfl, hstore⟩
  | cons stage rest ih =>
    obtain ⟨answer, hafter⟩ : _ ∧ R _ _ := Context.check_agree reads limits stage flags store store' hstore
    change ((stage.check ctx.vehicle.airframe limits ctx flags).run store).1 =
      ((stage.check ctx.vehicle.airframe limits (ctx.withRead read) flags).run store').1 at answer
    change R ((stage.check ctx.vehicle.airframe limits ctx flags).run store).2
      ((stage.check ctx.vehicle.airframe limits (ctx.withRead read) flags).run store').2 at hafter
    simp only [List.map_cons, runAll]
    rcases hrun : (stage.check ctx.vehicle.airframe limits ctx flags).run store with ⟨given, after⟩
    rcases hrun' : (stage.check ctx.vehicle.airframe limits (ctx.withRead read) flags).run store' with ⟨given', after'⟩
    rw [hrun, hrun'] at answer hafter
    obtain rfl : given = given' := answer
    cases given with
    | error fault => exact ⟨rfl, rfl, hafter⟩
    | ok outcome =>
      obtain ⟨outcomes, fault, hstores⟩ := ih outcome.flags hafter
      exact ⟨congrArg (outcome :: ·) outcomes, fault, hstores⟩

theorem runAll_agree {R : σ → τ → Prop} {read : Nat → Reads τ Item}
    (reads : ∀ index < ctx.count, Reads.Agree R (ctx.read index) (read index)) (stages : List Stage) (flags : Flags)
    {store : σ} {store' : τ} (hstore : R store store') :
    (runAll ctx (stages.map (Stage.check ctx.vehicle.airframe limits)) flags store).verdict =
      (runAll (ctx.withRead read) (stages.map (Stage.check ctx.vehicle.airframe limits)) flags store').verdict := by
  obtain ⟨outcomes, fault, -⟩ := runAll_related reads stages flags hstore rfl rfl
  rw [Trace.verdict, Trace.verdict, outcomes, fault]

def Ends (ctx : Context σ) (limits : Limits) : List Stage → Flags → σ → List Outcome → Prop
  | [], _, _, outcomes => outcomes = []
  | stage :: rest, flags, store, outcomes =>
    ∃ outcome after others, (ctx.check limits stage flags).run store = (.ok outcome, after) ∧
      Ends ctx limits rest outcome.flags after others ∧ outcomes = outcome :: others

theorem ends_of_runAll {stages : List Stage} {flags : Flags} {store : σ} {trace : Trace σ}
    (htrace : runAll ctx (stages.map (Stage.check ctx.vehicle.airframe limits)) flags store = trace)
    (h : trace.fault = none) : Ends ctx limits stages flags store trace.outcomes := by
  subst htrace
  induction stages generalizing flags store with
  | nil => rfl
  | cons stage rest ih =>
    rw [List.map_cons, runAll] at h ⊢
    rcases hrun : (stage.check ctx.vehicle.airframe limits ctx flags).run store with ⟨fault | outcome, after⟩
    · rw [hrun] at h
      cases h
    · rw [hrun] at h
      exact ⟨outcome, after, _, hrun, ih h, rfl⟩

theorem ends_of_verdict {store : σ} {verdict : Verdict} (h : (run ctx limits store).verdict = .ok verdict) :
    ∃ outcomes, Ends ctx limits Stage.all {} store outcomes ∧ verdict = .ofOutcomes outcomes := by
  rw [Trace.verdict] at h
  split at h
  · cases h
  next hfault =>
    refine ⟨_, ends_of_runAll ?_ hfault, (Except.ok.inj h).symm⟩
    rw [run, ← Stage.map_check_all]

theorem Clears.stage {stages : List Stage} {flags : Flags} {store : σ} (h : Clears ctx limits stages flags store)
    {stage : Stage} (hstage : stage ∈ stages) :
    ∃ flags before outcome after, (ctx.check limits stage flags).run before = (.ok outcome, after) ∧
      outcome.passed = true := by
  induction stages generalizing flags store with
  | nil => exact nomatch hstage
  | cons other rest ih =>
    obtain ⟨outcome, after, ran, passed, cleared⟩ := h
    rcases List.mem_cons.mp hstage with rfl | hstage
    · exact ⟨flags, store, outcome, after, ran, passed⟩
    · exact ih cleared hstage

end Pass

namespace Checker

variable {c : Checker σ} {mission : Mission} {items : List Item} {store : σ}

/-- The mission can be read: its reads answer with the items, and go on doing so. -/
def Holds (c : Checker σ) (mission : Mission) (items : List Item) (store : σ) : Prop :=
  mission.count = items.length ∧ ∃ kept : σ → Prop, kept store ∧
    ∀ (index : Nat) item, items[index]? = some item → ∀ store, kept store →
      ((c.read mission.storageId index).run store).1 = .ok item ∧ kept ((c.read mission.storageId index).run store).2

theorem holds_memory {c : Checker MemoryStore} (hread : c.read = MemoryStore.read) {id : String}
    {store : MemoryStore} (hfind : store.find? id = some items) :
    c.Holds (MemoryStore.handle id items) items store := by
  refine ⟨rfl, (· = store), rfl, ?_⟩
  rintro index item hitem store rfl
  have found : (MemoryStore.read id (index : Int)).run store = (.ok item, store) := by
    change (store.item id index, store) = _
    rw [MemoryStore.item, hfind]
    exact Prod.ext (itemAt_eq_ok.mpr hitem) rfl
  rw [hread]
  change ((MemoryStore.read id (index : Int)).run store).1 = _ ∧ _
  rw [found]
  exact ⟨rfl, rfl⟩

theorem clears_of_accepts (h : (c.check mission limits store).Accepts) :
    Pass.Clears (c.context mission) limits Stage.all {} store :=
  Pass.clears_of_runs (passed_of_accepts h).2

theorem Holds.context (hheld : c.Holds mission items store) : (c.context mission).Holds items store := by
  obtain ⟨hcount, kept⟩ := hheld
  refine ⟨?_, kept⟩
  change mission.count.toNat = items.length
  omega

theorem verdict_onList (hheld : c.Holds mission items store) (hcount : 0 < mission.count) :
    (c.check mission limits store).verdict =
      (Pass.run ((c.context mission).onList mission.storageId items) limits ()).verdict := by
  obtain ⟨R, hstore, reads⟩ := hheld.context.agree mission.storageId
  rw [check_of_count hcount]
  exact Pass.runAll_agree reads Stage.all {} hstore

theorem clears_onList (hheld : c.Holds mission items store) (h : (c.check mission limits store).Accepts) :
    (c.context mission).count = items.length ∧
      Pass.Clears ((c.context mission).onList mission.storageId items) limits Stage.all {} () := by
  obtain ⟨R, hstore, reads⟩ := hheld.context.agree mission.storageId
  exact ⟨hheld.context.1, Pass.clears_agree reads hstore (clears_of_accepts h)⟩

end Checker

end Preflight
