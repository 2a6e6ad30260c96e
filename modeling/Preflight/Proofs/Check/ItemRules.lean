import Mathlib.Order.Bounds.Basic
import Preflight.Proofs.Check.Settle

/-!
Checks that test item by item. Over a store whose answers depend on the index alone, such a check reports the first item
that it cannot read or that breaks a rule, by the first rule that this item breaks.
-/
namespace Preflight

variable {σ α β : Type} {ctx : Context σ} {answer : Nat → Except String Item} {store : σ}

def Context.Answers (ctx : Context σ) (answer : Nat → Except String Item) (store : σ) : Prop :=
  ∃ kept : σ → Prop, kept store ∧ ∀ index < ctx.count, ∀ store, kept store →
    ((ctx.read index).run store).1 = (answer index).mapError .storage ∧ kept ((ctx.read index).run store).2

/-- What a scan over such a store comes to: `seen index` is what is seen on the way to an index, `Passes` what lets the
scan go on, and `Ends` what holds where it ends before the last item. -/
inductive ScanEnd (answer : Nat → Except String Item) (count : Nat) (seen : Nat → α) (Passes : Nat → Item → Prop)
    (Ends : Nat → Item → β → Prop) : Progress α β → Prop
  | passed (passes : ∀ index < count, ∃ item, answer index = .ok item ∧ Passes index item) :
      ScanEnd answer count seen Passes Ends (.going (seen count))
  | unread (index : Nat) (reason : String) (hi : index < count)
      (passes : ∀ earlier < index, ∃ item, answer earlier = .ok item ∧ Passes earlier item)
      (failed : answer index = .error reason) : ScanEnd answer count seen Passes Ends (.unreadable reason (seen index))
  | ended (index : Nat) (item : Item) (result : β) (hi : index < count)
      (passes : ∀ earlier < index, ∃ item, answer earlier = .ok item ∧ Passes earlier item)
      (read : answer index = .ok item) (ends : Ends index item result) :
      ScanEnd answer count seen Passes Ends (.stopped result)

theorem scan_answers {visit : Nat → Item → α → Except Fault (Progress α β)} {seen : Nat → α}
    (Passes : Nat → Item → Prop) (Ends : Nat → Item → β → Prop) (hanswers : ctx.Answers answer store)
    (visits : ∀ index < ctx.count, ∀ item, answer index = .ok item →
      visit index item (seen index) = .ok (.going (seen (index + 1))) ∧ Passes index item ∨
        ∃ result, visit index item (seen index) = .ok (.stopped result) ∧ Ends index item result) :
    ∃ progress, ((ctx.scan (seen 0) fun index item seen => .ofExcept (visit index item seen)).run store).1 =
      .ok progress ∧ ScanEnd answer ctx.count seen Passes Ends progress := by
  obtain ⟨kept, hstore, reads⟩ := hanswers
  refine scan_induction ctx.read (fun index item seen => .ofExcept (visit index item seen))
    (I := fun index now store => kept store ∧ now = seen index ∧
      ∀ earlier < index, ∃ item, answer earlier = .ok item ∧ Passes earlier item)
    (Q := fun r => ∃ progress, r.1 = .ok progress ∧ ScanEnd answer ctx.count seen Passes Ends progress)
    ?_ ?_ (Nat.zero_add ctx.count) (seen 0) store ⟨hstore, rfl, nofun⟩
  · rintro index hi _ store ⟨hkept, rfl, passes⟩
    obtain ⟨answered, hafter⟩ := reads index hi store hkept
    rw [Reads.run_attempt, Reads.run_bind]
    rcases hread : (ctx.read index).run store with ⟨_, after⟩
    rw [hread] at answered hafter
    cases hanswer : answer index with
    | error reason =>
      rw [hanswer] at answered
      obtain rfl := answered
      exact ⟨_, rfl, .unread index reason hi passes hanswer⟩
    | ok item =>
      rw [hanswer] at answered
      obtain rfl := answered
      rcases visits index hi item hanswer with ⟨hvisit, pass⟩ | ⟨result, hvisit, ends⟩
      · simp only [Except.mapError, Reads.run_ofExcept, hvisit]
        refine ⟨hafter, rfl, fun earlier hearlier => ?_⟩
        rcases Nat.lt_succ_iff_lt_or_eq.mp hearlier with hearlier | rfl
        · exact passes earlier hearlier
        · exact ⟨item, hanswer, pass⟩
      · simp only [Except.mapError, Reads.run_ofExcept, hvisit]
        exact ⟨_, rfl, .ended index item result hi passes hanswer ends⟩
  · rintro _ store ⟨-, rfl, passes⟩
    exact ⟨_, rfl, .passed passes⟩

theorem run_settle_scan (ctx : Context σ) (start : α) (visit : Nat → Item → α → Reads σ (Progress α β))
    (close : Progress α β → Outcome) (store : σ) :
    ((ctx.settle (.ok none) start visit close).run store).1 = close <$> ((ctx.scan start visit).run store).1 := by
  change ((ctx.scan start visit >>= fun progress => pure (close progress)).run store).1 = _
  rw [Reads.run_bind]
  rcases (ctx.scan start visit).run store with ⟨fault | progress, after⟩ <;> rfl

namespace Check

structure Rule where
  code : String
  isBroken : Nat → Item → Bool

/-- The rules of a check that tests item by item, in the order in which it tests them. -/
structure ItemRules where
  rules : List Rule
  settles : Item → Bool := fun _ => false
  remark : Nat → Item → Option Finding := fun _ _ => none

namespace ItemRules

def broken? (r : ItemRules) (index : Nat) (item : Item) : Option String :=
  (r.rules.find? (·.isBroken index item)).map (·.code)

def IsFault (r : ItemRules) (answer : Nat → Except String Item) (index : Nat) : Prop :=
  (∃ reason, answer index = .error reason) ∨ ∃ item code, answer index = .ok item ∧ r.broken? index item = some code

structure FirstFault (r : ItemRules) (answer : Nat → Except String Item) (count index : Nat) : Prop where
  least : IsLeast {index | index < count ∧ r.IsFault answer index} index
  unsettled : ∀ earlier < index, ∀ item, answer earlier = .ok item → r.settles item = false

def remarks (r : ItemRules) (answer : Nat → Except String Item) (index : Nat) : List Finding :=
  (List.range index).filterMap fun earlier => (answer earlier).toOption.bind (r.remark earlier)

/-- The check fails for the first fault, if there is one, and says nothing else but its remarks. -/
structure Judges (r : ItemRules) (answer : Nat → Except String Item) (count : Nat) (o : Outcome) : Prop where
  failed : o.passed = false ↔ ∃ index, r.FirstFault answer count index
  fault : ∀ index, r.FirstFault answer count index → ∃ finding, o.findings = r.remarks answer index ++ [finding] ∧
    (finding.code = "mission_storage_failure" ↔ ∃ reason, answer index = .error reason) ∧
    ∀ item, answer index = .ok item →
      finding.item = some (Finding.number index) ∧ r.broken? index item = some finding.code
  clear : o.passed = true → o.findings = r.remarks answer count

variable {r : ItemRules} {count index : Nat} {item : Item} {o : Outcome}

@[simp]
theorem broken?_nil (settles : Item → Bool) (remark : Nat → Item → Option Finding) :
    (⟨[], settles, remark⟩ : ItemRules).broken? index item = none := rfl

@[simp]
theorem broken?_cons (rule : Rule) (rest : List Rule) (settles : Item → Bool) (remark : Nat → Item → Option Finding) :
    (⟨rule :: rest, settles, remark⟩ : ItemRules).broken? index item =
      if rule.isBroken index item then some rule.code else (⟨rest, settles, remark⟩ : ItemRules).broken? index item := by
  cases hbroken : rule.isBroken index item <;> simp [broken?, hbroken]

theorem FirstFault.unique {other : Nat} (h : r.FirstFault answer count index) (h' : r.FirstFault answer count other) :
    index = other :=
  h.least.unique h'.least

def Passes (r : ItemRules) (index : Nat) (item : Item) : Prop := r.broken? index item = none ∧ r.settles item = false

theorem not_isFault_of_passes (h : ∃ item, answer index = .ok item ∧ r.broken? index item = none) :
    ¬ r.IsFault answer index := by
  obtain ⟨item, hanswer, unbroken⟩ := h
  rintro (⟨reason, failed⟩ | ⟨other, code, hother, broken⟩)
  · exact nomatch hanswer.symm.trans failed
  · obtain rfl := Except.ok.inj (hanswer.symm.trans hother)
    exact nomatch unbroken.symm.trans broken

theorem firstFault_of_passes (hi : index < count) (hfault : r.IsFault answer index)
    (passes : ∀ earlier < index, ∃ item, answer earlier = .ok item ∧ r.Passes earlier item) :
    r.FirstFault answer count index := by
  constructor
  case least =>
    refine ⟨⟨hi, hfault⟩, fun other hother => ?_⟩
    by_contra earlier
    obtain ⟨item, hanswer, unbroken, -⟩ := passes other (by omega)
    exact not_isFault_of_passes ⟨item, hanswer, unbroken⟩ hother.2
  case unsettled =>
    intro earlier hearlier item hanswer
    obtain ⟨other, hother, -, unsettled⟩ := passes earlier hearlier
    obtain rfl := Except.ok.inj (hanswer.symm.trans hother)
    exact unsettled

inductive Ends (r : ItemRules) (answer : Nat → Except String Item) (count index : Nat) (item : Item) (o : Outcome) :
    Prop
  | settled (unbroken : r.broken? index item = none) (settles : r.settles item = true) (passed : o.passed = true)
      (findings : o.findings = r.remarks answer count)
  | refused (finding : Finding) (broken : r.broken? index item = some finding.code)
      (cites : finding.item = some (Finding.number index)) (failed : o.passed = false)
      (findings : o.findings = r.remarks answer index ++ [finding])

theorem remarks_succ (hanswer : answer index = .ok item) :
    r.remarks answer (index + 1) = r.remarks answer index ++ (r.remark index item).toList := by
  rw [remarks, List.range_succ, List.filterMap_append, ← remarks]
  cases hremark : r.remark index item <;> simp [hanswer, Except.toOption, hremark]

theorem judges_passed (passes : ∀ index < count, ∃ item, answer index = .ok item ∧ r.Passes index item)
    (passed : o.passed = true) (findings : o.findings = r.remarks answer count) : r.Judges answer count o := by
  have clear (index : Nat) : ¬ r.FirstFault answer count index := by
    rintro ⟨⟨⟨hi, hfault⟩, -⟩, -⟩
    obtain ⟨item, hanswer, unbroken, -⟩ := passes index hi
    exact not_isFault_of_passes ⟨item, hanswer, unbroken⟩ hfault
  constructor
  case failed => exact iff_of_false (by simp [passed]) fun ⟨index, first⟩ => clear index first
  case fault => exact fun index first => absurd first (clear index)
  case clear => exact fun _ => findings

theorem judges_settled (passes : ∀ earlier < index, ∃ item, answer earlier = .ok item ∧ r.Passes earlier item)
    (hanswer : answer index = .ok item) (unbroken : r.broken? index item = none) (settles : r.settles item = true)
    (passed : o.passed = true) (findings : o.findings = r.remarks answer count) : r.Judges answer count o := by
  have clear (other : Nat) : ¬ r.FirstFault answer count other := by
    rintro ⟨⟨⟨-, hfault⟩, -⟩, unsettled⟩
    -- Items behind the one that settles the check are not read; a fault among them is not the check's.
    rcases Nat.lt_trichotomy other index with earlier | rfl | later
    · obtain ⟨item, hanswer, unbroken, -⟩ := passes other earlier
      exact not_isFault_of_passes ⟨item, hanswer, unbroken⟩ hfault
    · exact not_isFault_of_passes ⟨item, hanswer, unbroken⟩ hfault
    · exact nomatch settles.symm.trans (unsettled index later item hanswer)
  constructor
  case failed => exact iff_of_false (by simp [passed]) fun ⟨index, first⟩ => clear index first
  case fault => exact fun index first => absurd first (clear index)
  case clear => exact fun _ => findings

theorem judges_first {finding : Finding} (first : r.FirstFault answer count index) (failed : o.passed = false)
    (findings : o.findings = r.remarks answer index ++ [finding])
    (storage : finding.code = "mission_storage_failure" ↔ ∃ reason, answer index = .error reason)
    (cites : ∀ item, answer index = .ok item →
      finding.item = some (Finding.number index) ∧ r.broken? index item = some finding.code) :
    r.Judges answer count o := by
  constructor
  case failed => exact iff_of_true failed ⟨index, first⟩
  case fault =>
    intro other hother
    obtain rfl := first.unique hother
    exact ⟨finding, findings, storage, cites⟩
  case clear => exact fun passed => nomatch failed.symm.trans passed

theorem code_ne_of_broken (codes : ∀ rule ∈ r.rules, rule.code ≠ "mission_storage_failure") {code : String}
    (h : r.broken? index item = some code) : code ≠ "mission_storage_failure" := by
  obtain ⟨rule, hrule, rfl⟩ := Option.map_eq_some_iff.mp h
  exact codes rule (List.mem_of_find?_eq_some hrule)

theorem judges_settle {visit : Nat → Item → α → Except Fault (Progress α β)} {close : Progress α β → Outcome}
    (seen : Nat → α) (hanswers : ctx.Answers answer store)
    (codes : ∀ rule ∈ r.rules, rule.code ≠ "mission_storage_failure")
    (visits : ∀ index < ctx.count, ∀ item, answer index = .ok item →
      visit index item (seen index) = .ok (.going (seen (index + 1))) ∧ r.Passes index item ∨
        ∃ result, visit index item (seen index) = .ok (.stopped result) ∧
          r.Ends answer ctx.count index item (close (.stopped result)))
    (going : (close (.going (seen ctx.count))).passed = true ∧
      (close (.going (seen ctx.count))).findings = r.remarks answer ctx.count)
    (unread : ∀ index reason, (close (.unreadable reason (seen index))).passed = false ∧
      ∃ reading, (close (.unreadable reason (seen index))).findings =
        r.remarks answer index ++ [.storageFailure reading]) :
    ∃ o, ((ctx.settle (.ok none) (seen 0) (fun index item seen => .ofExcept (visit index item seen)) close).run
      store).1 = .ok o ∧ r.Judges answer ctx.count o := by
  obtain ⟨progress, hscan, ended⟩ := scan_answers r.Passes
    (fun index item result => r.Ends answer ctx.count index item (close (.stopped result))) hanswers visits
  rw [run_settle_scan, hscan]
  refine ⟨close progress, rfl, ?_⟩
  cases ended with
  | passed passes => exact judges_passed passes going.1 going.2
  | unread index reason hi passes failed =>
    obtain ⟨rejected, reading, findings⟩ := unread index reason
    refine judges_first (firstFault_of_passes hi (.inl ⟨reason, failed⟩) passes) rejected findings ?_ ?_
    · exact iff_of_true rfl ⟨reason, failed⟩
    · exact fun item hanswer => nomatch failed.symm.trans hanswer
  | ended index item result hi passes hanswer ends =>
    cases ends with
    | settled unbroken settles passed findings => exact judges_settled passes hanswer unbroken settles passed findings
    | refused finding broken cites failed findings =>
      have hfault : r.IsFault answer index := .inr ⟨item, finding.code, hanswer, broken⟩
      refine judges_first (firstFault_of_passes hi hfault passes) failed findings ?_ ?_
      · exact iff_of_false (code_ne_of_broken codes broken) fun ⟨reason, unread⟩ => nomatch hanswer.symm.trans unread
      · intro other hother
        obtain rfl := Except.ok.inj (hanswer.symm.trans hother)
        exact ⟨cites, broken⟩

end ItemRules

end Check

end Preflight
