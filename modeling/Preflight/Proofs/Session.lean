import Preflight.Proofs.Pass.Stored

/-!
Sessions. A checker that is kept from pass to pass remembers nothing of them: every call answers as a checker that was
set up just now would, and leaves behind the diagnostics and the warning of its own answer, or nothing at all.
-/
namespace Preflight

namespace Session

variable {s a b : Session} {mission : Mission} {limits : Limits}

theorem run_emit (findings : List Finding) (s : Session) :
    (findings.forM fun finding => emit finding.diagnostic).run s =
      (.ok (), { s with emitted := s.emitted ++ findings.map Finding.diagnostic }) := by
  induction findings generalizing s with
  | nil => simp
  | cons finding rest ih =>
    have now : (emit finding.diagnostic).run s = (.ok (), { s with emitted := s.emitted ++ [finding.diagnostic] }) := rfl
    change (emit finding.diagnostic >>= fun _ => rest.forM fun finding => emit finding.diagnostic).run s = _
    rw [Reads.run_bind, now]
    dsimp only
    rw [ih, List.append_assoc]
    rfl

theorem run_announce (outcomes : List Outcome) (s : Session) :
    (announce outcomes).run s =
      (.ok (), { s with emitted := s.emitted ++ (outcomes.flatMap (·.findings)).map Finding.diagnostic }) := by
  induction outcomes generalizing s with
  | nil => simp [announce]
  | cons outcome rest ih =>
    change ((outcome.findings.forM fun finding => emit finding.diagnostic) >>= fun _ => announce rest).run s = _
    rw [Reads.run_bind, run_emit]
    dsimp only
    rw [ih, List.append_assoc, ← List.map_append]
    rfl

theorem agree_memory {R : MemoryStore → MemoryStore → Prop}
    (contents : ∀ store store', R store store' → ∀ id, store.find? id = store'.find? id) (id : String) (index : Int) :
    Reads.Agree R (MemoryStore.read id index) (MemoryStore.read id index) := by
  intro store store' hstore
  refine ⟨?_, hstore⟩
  change store.item id index = store'.item id index
  rw [MemoryStore.item, MemoryStore.item, contents store store' hstore]

theorem store_run (s : Session) (mission : Mission) (limits : Limits) :
    (Pass.run (s.checker.context mission) limits s.store).store = s.store := by
  have reads : ∀ index < (s.checker.context mission).count,
      Reads.Agree (fun store store' => store = s.store ∧ store' = s.store)
        ((s.checker.context mission).read index) ((s.checker.context mission).read index) := by
    intro index _
    apply agree_memory
    rintro store store' ⟨rfl, rfl⟩ id
    rfl
  obtain ⟨-, -, same, -⟩ : _ ∧ _ ∧ (Pass.run (s.checker.context mission) limits s.store).store = s.store ∧ _ :=
    Pass.runAll_related reads Stage.all {} ⟨rfl, rfl⟩ rfl rfl
  exact same

theorem run_runChecks (mission : Mission) (limits : Limits) (s : Session) :
    (runChecks mission limits).run s =
      (match (Pass.run (s.checker.context mission) limits s.store).fault with
        | some fault => .error fault
        | none => .ok (Pass.run (s.checker.context mission) limits s.store).outcomes, s) := by
  have same := store_run s mission limits
  unfold runChecks Reads.run
  dsimp only
  rw [same]
  cases (Pass.run (s.checker.context mission) limits s.store).fault <;> rfl

theorem check_eq (s : Session) (mission : Mission) (limits : Limits) :
    s.check mission limits =
      ((s.checker.check mission limits s.store).verdict,
        { s with
          emitted := s.emitted ++ (s.checker.check mission limits s.store).diagnostics
          warning := warningAfter (s.checker.check mission limits s.store).verdict }) := by
  have lowered : (setWarning false).run s = (.ok (), { s with warning := false }) := rfl
  rw [check, pass, Reads.run_bind, lowered]
  by_cases hcount : mission.count ≤ 0
  · have answer : s.checker.check mission limits s.store = { verdict := .ok .empty, store := s.store } := if_pos hcount
    rw [answer]
    simp [hcount, Answer.diagnostics, warningAfter, Verdict.empty]
  · have verdict : (s.checker.check mission limits s.store).verdict =
        (Pass.run (s.checker.context mission) limits s.store).verdict := Checker.check_of_count (by omega)
    have ran : (runChecks mission limits).run { s with warning := false } =
        (match (Pass.run (s.checker.context mission) limits s.store).fault with
          | some fault => .error fault
          | none => .ok (Pass.run (s.checker.context mission) limits s.store).outcomes, { s with warning := false }) :=
      run_runChecks mission limits { s with warning := false }
    rw [Answer.diagnostics, verdict, Pass.Trace.verdict]
    generalize Pass.run (s.checker.context mission) limits s.store = trace at ran
    simp only [if_neg hcount]
    rw [Reads.run_bind, ran]
    cases trace.fault with
    | some fault => simp [warningAfter]
    | none =>
      dsimp only
      rw [Reads.run_bind, run_announce]
      rfl

structure SameSetup (a b : Session) : Prop where
  contents : ∀ id, a.store.find? id = b.store.find? id
  vehicle : a.vehicle = b.vehicle
  fence : a.fence = b.fence
  distance : a.distance = b.distance
  hasPosition : a.hasPosition = b.hasPosition

theorem verdict_of_sameSetup (h : a.SameSetup b) (mission : Mission) (limits : Limits) :
    (a.checker.check mission limits a.store).verdict = (b.checker.check mission limits b.store).verdict := by
  have checkers : a.checker = b.checker := by
    rw [checker, checker, h.vehicle, h.fence, h.distance, h.hasPosition]
  rw [checkers]
  by_cases hcount : 0 < mission.count
  · rw [Checker.check_of_count hcount, Checker.check_of_count hcount]
    have reads : ∀ index < (b.checker.context mission).count,
        Reads.Agree (fun store store' => ∀ id, store.find? id = store'.find? id)
          ((b.checker.context mission).read index) ((b.checker.context mission).read index) := by
      intro index _
      exact agree_memory (fun _ _ contents => contents) mission.storageId index
    exact Pass.runAll_agree reads Stage.all {} h.contents
  · rw [Checker.check, Checker.check, if_pos (by omega), if_pos (by omega)]

namespace SameSetup

theorem refl (s : Session) : s.SameSetup s := ⟨fun _ => rfl, rfl, rfl, rfl, rfl⟩

theorem trans {c : Session} (h : a.SameSetup b) (h' : b.SameSetup c) : a.SameSetup c where
  contents := fun id => (h.contents id).trans (h'.contents id)
  vehicle := h.vehicle.trans h'.vehicle
  fence := h.fence.trans h'.fence
  distance := h.distance.trans h'.distance
  hasPosition := h.hasPosition.trans h'.hasPosition

end SameSetup

inductive Act where
  | store (id : String) (items : List Item)
  | vehicle (vehicle : Vehicle)
  | home (home : Home)
  | fence (fence : Geofence)
  | warning (raised : Bool)
  | check (mission : Mission) (limits : Limits)

def Act.configures : Act → Bool
  | store .. | vehicle _ | home _ | fence _ => true
  | warning _ | check .. => false

def perform (s : Session) : Act → Session
  | .store id items => { s with store := s.store.insert id items }
  | .vehicle vehicle => { s with vehicle }
  | .home home => { s with vehicle := { s.vehicle with home } }
  | .fence fence => { s with fence }
  | .warning raised => { s with warning := raised }
  | .check mission limits => (s.check mission limits).2

def after (s : Session) (acts : List Act) : Session := acts.foldl perform s

structure Call where
  mission : Mission
  limits : Limits
  before : Session
  answer : Except Fault Verdict
  after : Session

def call (s : Session) (mission : Mission) (limits : Limits) : Call :=
  ⟨mission, limits, s, (s.check mission limits).1, (s.check mission limits).2⟩

def calls (s : Session) : List Act → List Call
  | [] => []
  | .check mission limits :: rest => s.call mission limits :: (s.perform (.check mission limits)).calls rest
  | act :: rest => (s.perform act).calls rest

namespace Call

def diagnostics (c : Call) : List Diagnostic :=
  match c.answer with
  | .ok verdict => verdict.diagnostics
  | .error _ => []

structure StandsAlone (c : Call) : Prop where
  returned : ∀ verdict, c.answer = .ok verdict →
    c.after.emitted = c.before.emitted ++ verdict.diagnostics ∧ c.after.warning = verdict.warning
  brokenOff : ∀ fault, c.answer = .error fault → c.after.emitted = c.before.emitted ∧ c.after.warning = false
  empty : c.mission.count ≤ 0 → c.after.emitted = c.before.emitted ∧ c.after.warning = false
  fresh : ∀ other : Session, other.SameSetup c.before → (other.check c.mission c.limits).1 = c.answer

theorem StandsAlone.emitted {c : Call} (h : c.StandsAlone) : c.after.emitted = c.before.emitted ++ c.diagnostics := by
  rw [diagnostics]
  cases hanswer : c.answer with
  | ok verdict => exact (h.returned verdict hanswer).1
  | error fault => rw [(h.brokenOff fault hanswer).1, List.append_nil]

end Call

theorem call_standsAlone (s : Session) (mission : Mission) (limits : Limits) : (s.call mission limits).StandsAlone := by
  have effect := check_eq s mission limits
  have answered : (s.call mission limits).answer = (s.checker.check mission limits s.store).verdict :=
    congrArg Prod.fst effect
  have left : (s.call mission limits).after = _ := congrArg Prod.snd effect
  constructor
  · intro verdict hanswer
    rw [answered] at hanswer
    rw [left, Answer.diagnostics, hanswer]
    exact ⟨rfl, rfl⟩
  · intro fault hanswer
    rw [answered] at hanswer
    rw [left, Answer.diagnostics, hanswer]
    exact ⟨List.append_nil _, rfl⟩
  · intro hcount
    have rejected : (s.checker.check mission limits s.store).verdict = .ok .empty := by
      rw [Checker.check, if_pos (show mission.count ≤ 0 from hcount)]
    rw [left, Answer.diagnostics, rejected]
    exact ⟨List.append_nil _, rfl⟩
  · intro other hother
    have answered' : (other.check mission limits).1 = (other.checker.check mission limits other.store).verdict :=
      congrArg Prod.fst (check_eq other mission limits)
    rw [answered]
    exact answered'.trans (verdict_of_sameSetup hother mission limits)

theorem mem_calls {s : Session} {acts : List Act} {c : Call} (h : c ∈ s.calls acts) :
    ∃ before mission limits, c = call before mission limits := by
  induction acts generalizing s with
  | nil => exact nomatch h
  | cons act rest ih =>
    cases act with
    | check mission limits =>
      rcases List.mem_cons.mp h with rfl | h
      · exact ⟨s, mission, limits, rfl⟩
      · exact ih h
    | _ => exact ih h

theorem emitted_after (s : Session) (acts : List Act) :
    (s.after acts).emitted = s.emitted ++ (s.calls acts).flatMap Call.diagnostics := by
  induction acts generalizing s with
  | nil => exact (List.append_nil _).symm
  | cons act rest ih =>
    change ((s.perform act).after rest).emitted = _
    rw [ih]
    cases act with
    | check mission limits =>
      have announced : (s.perform (.check mission limits)).emitted =
          s.emitted ++ (s.call mission limits).diagnostics := (call_standsAlone s mission limits).emitted
      rw [announced, calls, List.flatMap_cons, List.append_assoc]
    | _ => rfl

theorem perform_sameSetup (h : a.SameSetup b) (act : Act) : (a.perform act).SameSetup (b.perform act) := by
  cases act with
  | store id items =>
    refine ⟨fun other => ?_, h.vehicle, h.fence, h.distance, h.hasPosition⟩
    by_cases hid : other = id
    · subst hid
      exact (MemoryStore.find?_insert_self _ _ _).trans (MemoryStore.find?_insert_self _ _ _).symm
    · change (a.store.insert id items).find? other = (b.store.insert id items).find? other
      rw [MemoryStore.find?_insert_of_ne _ hid, MemoryStore.find?_insert_of_ne _ hid, h.contents]
  | vehicle vehicle => exact ⟨h.contents, rfl, h.fence, h.distance, h.hasPosition⟩
  | home home => exact ⟨h.contents, by simp [perform, h.vehicle], h.fence, h.distance, h.hasPosition⟩
  | fence fence => exact ⟨h.contents, h.vehicle, rfl, h.distance, h.hasPosition⟩
  | warning raised => exact ⟨h.contents, h.vehicle, h.fence, h.distance, h.hasPosition⟩
  | check mission limits =>
    change (a.check mission limits).2.SameSetup (b.check mission limits).2
    rw [check_eq, check_eq]
    exact ⟨h.contents, h.vehicle, h.fence, h.distance, h.hasPosition⟩

theorem perform_idle {act : Act} (h : act.configures = false) (s : Session) : (s.perform act).SameSetup s := by
  cases act with
  | warning raised => exact ⟨fun _ => rfl, rfl, rfl, rfl, rfl⟩
  | check mission limits =>
    change (s.check mission limits).2.SameSetup s
    rw [check_eq]
    exact ⟨fun _ => rfl, rfl, rfl, rfl, rfl⟩
  | _ => exact nomatch h

theorem after_sameSetup (h : a.SameSetup b) (acts : List Act) : (a.after acts).SameSetup (b.after acts) := by
  induction acts generalizing a b with
  | nil => exact h
  | cons act rest ih => exact ih (perform_sameSetup h act)

theorem after_configures (s : Session) (acts : List Act) :
    (s.after acts).SameSetup (s.after (acts.filter Act.configures)) := by
  induction acts generalizing s with
  | nil => exact .refl s
  | cons act rest ih =>
    have later := ih (s.perform act)
    cases hact : act.configures with
    | true =>
      rw [List.filter_cons_of_pos hact]
      exact later
    | false =>
      rw [List.filter_cons_of_neg (by simp [hact])]
      exact later.trans (after_sameSetup (perform_idle hact s) _)

/-- In every run each call stands alone, the channel holds the calls' diagnostics in order and nothing else, and what a
session knows was told to it: no call changes that. -/
theorem run_standsAlone (s : Session) (acts : List Act) :
    (∀ c ∈ s.calls acts, c.StandsAlone) ∧
      (s.after acts).emitted = s.emitted ++ (s.calls acts).flatMap Call.diagnostics ∧
      (s.after acts).SameSetup (s.after (acts.filter Act.configures)) := by
  refine ⟨?_, emitted_after s acts, after_configures s acts⟩
  intro c hc
  obtain ⟨before, mission, limits, rfl⟩ := mem_calls hc
  exact call_standsAlone before mission limits

theorem run_standsAlone_servo :
    let low : Item := { code := Command.waypoint.code, lat := 47.39, lon := 8.54, altitude := -5.0 }
    let servo : Item := { code := Command.doSetServo.code, params := .ofList [Double.infinity] }
    let s : Session := { vehicle := { home := .ofNumbers 47.39 8.54 488.0 } }
    let earlier : List Act := [.store "a" [low], .check ⟨1, "a"⟩ {}, .store "b" [servo], .warning true]
    let last := (s.after earlier).call ⟨1, "b"⟩ {}
    last.answer = .error .wholeOfInfinite ∧ last.after.warning = false ∧ last.after.emitted = last.before.emitted ∧
      last.before.emitted.map (·.code) = ["mission_waypoint_below_home"] := by
  intro low servo s earlier last
  have answer : last.answer = .error .wholeOfInfinite := by decide +kernel
  have called : last ∈ s.calls (earlier ++ [.check ⟨1, "b"⟩ {}]) := by
    simp [earlier, last, calls, after, perform]
  obtain ⟨alone, -, -⟩ := run_standsAlone s (earlier ++ [.check ⟨1, "b"⟩ {}])
  obtain ⟨silent, lowered⟩ := (alone last called).brokenOff _ answer
  exact ⟨answer, lowered, silent, by decide +kernel⟩

end Session

end Preflight
