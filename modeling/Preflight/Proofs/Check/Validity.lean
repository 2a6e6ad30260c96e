import Preflight.Proofs.Check.Counted
import Preflight.Proofs.Check.Listed
import Preflight.Proofs.Check.Report

namespace Preflight.Check

variable {σ : Type} {ctx : Context σ} {flags : Flags} {outcome : Outcome}

theorem validity_eq (ctx : Context σ) (flags : Flags) :
    validity ctx flags = ctx.settle (.ok none) ()
      (fun index item seen => .ofExcept (stopAt seen <$> invalidity ctx.vehicle index item))
      fun
        | .going _ => .pass flags
        | .stopped finding => .fail flags finding
        | .unreadable reason _ => .unreadable flags reason false :=
  bind_congr fun progress => by cases progress <;> rfl

inductive Refuses (vehicle : Vehicle) (index : Nat) (item : Item) : Finding → Prop
  | command (unsupported : item.capability.supported = false) :
    Refuses vehicle index item (.unsupportedCommand index item.code)
  | servo {actuator : Int} (sets : item.carries .doSetServo = true) (shown : wholeOf (servo item) = .ok actuator) :
    Refuses vehicle index item (.actuatorIndex index actuator greatestServo)
  | servoValue {value limit : Int} (sets : item.carries .doSetServo = true)
    (shown : wholeOf (servoValue item) = .ok value) : Refuses vehicle index item (.actuatorRange index value limit)
  | landing (first : index = 0) (lands : item.carries .land = true) :
    Refuses vehicle index item (.startsWithLanding false)

theorem invalidity_some {vehicle : Vehicle} {index : Nat} {item : Item} {finding : Finding}
    (h : invalidity vehicle index item = .ok (some finding)) : Refuses vehicle index item finding := by
  have starts (h : (if index = 0 && item.carries .land && vehicle.landed then
      pure (some (.startsWithLanding false)) else pure none : Except Fault (Option Finding)) = .ok (some finding)) :
      Refuses vehicle index item finding := by
    split at h
    next lands =>
      obtain ⟨⟨first, lands⟩, -⟩ : (index = 0 ∧ item.carries .land = true) ∧ _ := by simpa using lands
      obtain rfl := Option.some.inj (Except.ok.inj h)
      exact .landing first lands
    next => cases h
  unfold invalidity at h
  split at h
  next unsupported =>
    obtain rfl := Option.some.inj (Except.ok.inj h)
    exact .command (by simpa using unsupported)
  next =>
    dsimp only at h
    split at h
    next sets =>
      split at h
      · obtain ⟨actuator, shown, h⟩ := Fault.bind_ok h
        obtain rfl := Option.some.inj (Except.ok.inj h)
        exact .servo sets shown
      · split at h
        · obtain ⟨value, shown, h⟩ := Fault.bind_ok h
          obtain ⟨limit, -, h⟩ := Fault.bind_ok h
          obtain rfl := Option.some.inj (Except.ok.inj h)
          exact .servoValue sets shown
        · exact starts h
    next => exact starts h

theorem invalidity_rejects {vehicle : Vehicle} {index count : Nat} {item : Item} {finding : Finding}
    (h : invalidity vehicle index item = .ok (some finding)) (hi : index < count) :
    finding.Rejects count ∧ finding.isCaution = false := by
  cases invalidity_some h with
  | landing first =>
    subst first
    exact ⟨Finding.rejects_of_number hi rfl rfl, rfl⟩
  | _ => exact ⟨Finding.rejects_of_number hi rfl rfl, rfl⟩

theorem servo_of_invalidity {vehicle : Vehicle} {index : Nat} {item : Item}
    (h : invalidity vehicle index item = .ok none) (hservo : item.carries .doSetServo = true) :
    (¬ servo item < 0.0 ∧ ¬ Double.ofInt greatestServo < servo item) ∧
      ¬ servoValue item < -vehicle.actuatorLimit ∧ ¬ vehicle.actuatorLimit < servoValue item := by
  unfold invalidity at h
  simp only [hservo, bind, Except.bind, pure, Except.pure] at h
  grind

theorem validity_plain {store after : σ} (h : (validity ctx flags).run store = (.ok outcome, after)) :
    outcome.Plain ctx.count := by
  rw [validity_eq] at h
  refine settle_obeys (I := fun _ _ => True)
    (P := fun finding : Finding => finding.Rejects ctx.count ∧ finding.isCaution = false) (by simp) trivial ?_ ?_ h
  · intro index hi item seen store progress after _ hvisit
    obtain ⟨finding, hfinding, rfl⟩ := Fault.map_ok (Prod.mk.inj hvisit).1
    cases finding with
    | none => trivial
    | some finding => exact invalidity_rejects hfinding hi
  · rintro (_ | finding | reason) reported
    · exact Outcome.plain_pass ctx.count flags
    · exact Outcome.plain_fail flags reported.1 reported.2
    · exact Outcome.plain_unreadable ctx.count flags reason false

theorem validity_agree {τ : Type} {R : σ → τ → Prop} {read : Nat → Reads τ Item}
    (reads : ∀ index < ctx.count, Reads.Agree R (ctx.read index) (read index)) :
    Reads.Agree R (validity ctx flags) (validity (ctx.withRead read) flags) := by
  rw [validity_eq, validity_eq]
  exact settle_agree reads _ _ (fun _ _ _ _ => .ofExcept _) _

theorem validity_catches : (validity ctx flags).Catches := by
  rw [validity_eq]
  exact settle_catches ctx _ _ _ nofun

theorem validity_unread {store after : σ × Nat} {answer : Except Fault Outcome}
    (h : (validity ctx.counted flags).run store = (answer, after)) (hfailed : store.2 < after.2) :
    ∃ o, answer = .ok o ∧ o.Unread := by
  rw [validity_eq] at h
  obtain ⟨reason, seen, rfl⟩ := settle_counted (fun _ _ _ => Reads.honest_ofExcept _) h hfailed
  exact ⟨_, rfl, Outcome.unread_unreadable flags reason false⟩

theorem validity_flags {store after : σ} (h : (validity ctx flags).run store = (.ok outcome, after)) :
    outcome.flags = flags := by
  rw [validity_eq] at h
  exact settle_flags (by simp) (fun progress => by cases progress <;> rfl) h

theorem validity_reads {store after : σ} (h : (validity ctx flags).run store = (.ok outcome, after))
    (hpassed : outcome.passed = true) :
    ∀ index < ctx.count, ∃ before item after, (ctx.read index).run before = (.ok item, after) := by
  rw [validity_eq] at h
  rcases settle_ok h with ⟨decided, -⟩ | ⟨-, progress, hscan, rfl⟩
  · simp at decided
  · cases progress with
    | going seen => exact scan_going hscan
    | _ => simp [Outcome.fail, Outcome.unreadable] at hpassed

theorem validity_onList {id : String} {items : List Item} (hcount : ctx.count = items.length)
    (h : (validity (ctx.onList id items) flags).run () = (.ok outcome, ())) (hpassed : outcome.passed = true) :
    ∀ item ∈ items, ∃ index, invalidity ctx.vehicle index item = .ok none := by
  rw [validity_eq] at h
  rcases settle_onList hcount h with hbefore | ⟨-, progress, rfl, hwalk⟩
  · simp at hbefore
  · cases progress with
    | going seen =>
      intro item hitem
      obtain ⟨index, hfound⟩ := List.mem_iff_getElem?.mp hitem
      exact ⟨index, walk_stopAt.mp hwalk index item hfound⟩
    | _ => simp [Outcome.fail, Outcome.unreadable] at hpassed

end Preflight.Check
