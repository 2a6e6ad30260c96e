import Preflight.Proofs.Faults

/-!
Computations that read a document. Most of their faults are turned into refusals of the document. `EndsIn` says that a
computation ends in a fault of some kind, `Keeps` that it ends in none but those of some groups and the stray ones,
which nothing turns into a refusal. `Confined` is the same for any faults that may pass.
-/
namespace Preflight

variable {α β : Type} {x : Except Fault α} {f : α → Except Fault β}

/-- A number that is too great, one without a whole part, something that is asked for what it does not have, and a
ring that cannot be closed. -/
def Fault.isStray : Fault → Bool
  | realOverflow | wholeOfInfinite | noOperation .. | openRing => true
  | _ => false

def Fault.isOverflow : Fault → Bool
  | realOverflow | wholeOfInfinite => true
  | _ => false

theorem Fault.isStray_of_isOverflow {fault : Fault} (h : fault.isOverflow = true) : fault.isStray = true := by
  cases fault <;> simp [isOverflow, isStray] at h ⊢

theorem Fault.isStray_cases {fault : Fault} (h : fault.isStray = true) :
    fault = realOverflow ∨ fault = wholeOfInfinite ∨ (∃ kind name, fault = noOperation kind name) ∨
      fault = openRing := by
  cases fault <;> simp [isStray] at h ⊢

theorem Fault.invalid_of_isAmong {fault : Fault} (h : fault.isAmong [.invalid] = true) :
    ∃ reason, fault = invalid reason := by
  have same : fault.group = .invalid := by simpa [isAmong] using h
  cases fault with
  | invalid reason => exact ⟨reason, rfl⟩
  | file fault path => cases fault <;> simp [group] at same
  | malformedYaml name flaw =>
    cases flaw with
    | escape n =>
      rw [group] at same
      split at same <;> cases same
    | _ => simp [group] at same
  | _ => simp [group] at same

def Fault.isUnrefused : Fault → Bool
  | invalid _ => false
  | _ => true

def EndsIn (p : Fault → Bool) (x : Except Fault α) : Prop := ∃ fault, x = .error fault ∧ p fault = true

variable {p : Fault → Bool}

@[simp]
theorem not_endsIn_ok (a : α) : ¬ EndsIn p (.ok a : Except Fault α) := nofun

@[simp]
theorem endsIn_error (fault : Fault) : EndsIn p (.error fault : Except Fault α) ↔ p fault = true := by
  constructor
  · rintro ⟨_, ⟨⟩, h⟩
    exact h
  · exact fun h => ⟨fault, rfl, h⟩

theorem not_endsIn_invalid (hp : ∀ reason, p (.invalid reason) = false) (reason : String) :
    ¬ EndsIn p (.error (.invalid reason) : Except Fault α) := by
  rw [endsIn_error, hp]
  exact Bool.false_ne_true

theorem endsIn_bind : EndsIn p (x >>= f) ↔ EndsIn p x ∨ ∃ a, x = .ok a ∧ EndsIn p (f a) := by
  cases x with
  | error fault =>
    change EndsIn p (.error fault) ↔ _
    simp
  | ok a =>
    change EndsIn p (f a) ↔ _
    simp

theorem endsIn_map {g : α → β} : EndsIn p (g <$> x) ↔ EndsIn p x := by
  cases x with
  | error fault => exact (endsIn_error fault).trans (endsIn_error fault).symm
  | ok a => exact iff_of_false (not_endsIn_ok (g a)) (not_endsIn_ok a)

theorem endsIn_unless (hp : ∀ reason, p (.invalid reason) = false) {c : Prop} [Decidable c] {reason : String}
    {next : PUnit → Except Fault α} :
    EndsIn p (if c then throw (.invalid reason) >>= next else next ⟨⟩) ↔ ¬ c ∧ EndsIn p (next ⟨⟩) := by
  split
  next hc =>
    change EndsIn p (.error (.invalid reason)) ↔ _
    simp [hc, hp]
  next hc => simp [hc]

/-- Among several things taken in order, the first that is not read fails. -/
def Foremost (reads fails : α → Prop) (items : List α) : Prop :=
  ∃ before a after, items = before ++ a :: after ∧ (∀ b ∈ before, reads b) ∧ fails a

section

variable {reads fails : α → Prop} {a : α} {items : List α}

@[simp]
theorem not_foremost_nil : ¬ Foremost reads fails [] := by
  rintro ⟨before, a, after, h, -⟩
  simp at h

theorem foremost_cons : Foremost reads fails (a :: items) ↔ fails a ∨ reads a ∧ Foremost reads fails items := by
  constructor
  · rintro ⟨before, b, after, h, read, failed⟩
    cases before with
    | nil =>
      obtain ⟨rfl, -⟩ := List.cons.inj h
      exact .inl failed
    | cons c before =>
      obtain ⟨rfl, rfl⟩ := List.cons.inj h
      rw [List.forall_mem_cons] at read
      exact .inr ⟨read.1, before, b, after, rfl, read.2, failed⟩
  · rintro (failed | ⟨now, before, b, after, rfl, read, failed⟩)
    · exact ⟨[], a, items, rfl, by simp, failed⟩
    · refine ⟨a :: before, b, after, rfl, ?_, failed⟩
      exact List.forall_mem_cons.mpr ⟨now, read⟩

theorem foremost_congr {reads' fails' : α → Prop} (hreads : ∀ a, reads a ↔ reads' a)
    (hfails : ∀ a, fails a ↔ fails' a) : Foremost reads fails items ↔ Foremost reads' fails' items := by
  have same : reads = reads' := funext fun a => propext (hreads a)
  have same' : fails = fails' := funext fun a => propext (hfails a)
  rw [same, same']

theorem foremost_congr_of_mem {fails' : α → Prop} (h : ∀ a ∈ items, fails a ↔ fails' a) :
    Foremost reads fails items ↔ Foremost reads fails' items := by
  induction items with
  | nil => exact iff_of_false not_foremost_nil not_foremost_nil
  | cons a items ih =>
    rw [List.forall_mem_cons] at h
    rw [foremost_cons, foremost_cons, h.1, ih h.2]

theorem foremost_map {γ : Type} {reads fails : γ → Prop} {g : α → γ} :
    Foremost reads fails (items.map g) ↔ Foremost (fun a => reads (g a)) (fun a => fails (g a)) items := by
  induction items with
  | nil => simp
  | cons a items ih => rw [List.map_cons, foremost_cons, foremost_cons, ih]

theorem foremost_append {items' : List α} : Foremost reads fails (items ++ items') ↔
    Foremost reads fails items ∨ (∀ a ∈ items, reads a) ∧ Foremost reads fails items' := by
  induction items with
  | nil => simp
  | cons a items ih =>
    rw [List.cons_append, foremost_cons, foremost_cons, ih, List.forall_mem_cons]
    grind

end

def Reads? (f : α → Except Fault β) (a : α) : Prop := ∃ b, f a = .ok b

theorem endsIn_mapM (f : α → Except Fault β) (items : List α) :
    EndsIn p (items.mapM f) ↔ Foremost (Reads? f) (fun a => EndsIn p (f a)) items := by
  induction items with
  | nil => exact iff_of_false (not_endsIn_ok []) not_foremost_nil
  | cons a items ih =>
    rw [List.mapM_cons, endsIn_bind, foremost_cons, ← ih]
    apply or_congr Iff.rfl
    have rest (b : β) : EndsIn p (items.mapM f >>= fun bs => pure (b :: bs)) ↔ EndsIn p (items.mapM f) :=
      endsIn_map (g := fun bs => b :: bs)
    constructor
    · rintro ⟨b, hb, h⟩
      exact ⟨⟨b, hb⟩, (rest b).mp h⟩
    · rintro ⟨⟨b, hb⟩, h⟩
      exact ⟨b, hb, (rest b).mpr h⟩

theorem mapM_reads (f : α → Except Fault β) (items : List α) :
    Reads? (List.mapM f) items ↔ ∀ a ∈ items, Reads? f a := by
  induction items with
  | nil => simp [Reads?, pure, Except.pure]
  | cons a items ih =>
    rw [List.forall_mem_cons, ← ih, Reads?, List.mapM_cons]
    constructor
    · rintro ⟨bs, h⟩
      obtain ⟨b, hb, h⟩ := Fault.bind_ok h
      obtain ⟨rest, hrest, -⟩ := Fault.bind_ok h
      exact ⟨⟨b, hb⟩, rest, hrest⟩
    · rintro ⟨⟨b, hb⟩, bs, hbs⟩
      exact ⟨b :: bs, by rw [hb]; change (List.mapM f items >>= _) = _; rw [hbs]; rfl⟩

theorem length_of_mapM {f : α → Except Fault β} {items : List α} {read : List β} (h : items.mapM f = .ok read) :
    read.length = items.length := by
  induction items generalizing read with
  | nil =>
    obtain rfl := Except.ok.inj h
    rfl
  | cons a items ih =>
    rw [List.mapM_cons] at h
    obtain ⟨b, -, h⟩ := Fault.bind_ok h
    obtain ⟨bs, hbs, h⟩ := Fault.bind_ok h
    obtain rfl := Except.ok.inj h
    rw [List.length_cons, List.length_cons, ih hbs]

section

open Fault

@[simp]
theorem refusing_eq_ok {groups : List Group} {reason : String → String} {a : α} :
    refusing groups reason x = .ok a ↔ x = .ok a := by
  cases x <;> simp [refusing]

/-- No fault but those of the given groups and those that pass. -/
def Confined (passing : Fault → Prop) (groups : List Group) (x : Except Fault α) : Prop :=
  ∀ fault, x = .error fault → fault.isAmong groups = true ∨ passing fault

def Keeps (groups : List Group) (x : Except Fault α) : Prop :=
  ∀ fault, x = .error fault → fault.isAmong groups = true ∨ fault.isStray = true

variable {passing : Fault → Prop} {groups : List Group}

theorem confined_ok (a : α) : Confined passing groups (.ok a : Except Fault α) := nofun

theorem confined_error {fault : Fault} (h : fault.isAmong groups = true ∨ passing fault) :
    Confined passing groups (.error fault : Except Fault α) := by
  rintro _ ⟨⟩
  exact h

theorem confined_bind (hx : Confined passing groups x) (hf : ∀ a, x = .ok a → Confined passing groups (f a)) :
    Confined passing groups (x >>= f) := by
  cases x with
  | error fault => exact confined_error (hx fault rfl)
  | ok a => exact hf a rfl

theorem confined_unless {p : Prop} [Decidable p] {refusal : Except Fault PUnit} {next : PUnit → Except Fault α}
    (hrefusal : Confined passing groups refusal) (hnext : Confined passing groups (next ⟨⟩)) :
    Confined passing groups (if p then refusal >>= next else next ⟨⟩) := by
  split
  · exact confined_bind hrefusal fun _ _ => hnext
  · exact hnext

theorem confined_mapM {f : α → Except Fault β} (hf : ∀ a, Confined passing groups (f a)) (items : List α) :
    Confined passing groups (items.mapM f) := by
  induction items with
  | nil => exact confined_ok []
  | cons a items ih =>
    rw [List.mapM_cons]
    exact confined_bind (hf a) fun b _ => confined_bind ih fun bs _ => confined_ok (b :: bs)

theorem Confined.mono {more : List Group} (h : Confined passing groups x) (hmore : ∀ group ∈ groups, group ∈ more) :
    Confined passing more x := by
  intro fault hx
  rcases h fault hx with among | passes
  · left
    rw [isAmong, List.contains_iff_mem] at among ⊢
    exact hmore _ among
  · exact .inr passes

theorem Confined.imp {passing' : Fault → Prop} (h : Confined passing groups x)
    (hpassing : ∀ fault, passing fault → passing' fault) : Confined passing' groups x :=
  fun fault hx => (h fault hx).imp_right (hpassing fault)

theorem confined_refusing {reason : String → String} (hx : Confined passing groups x) :
    Confined passing [.invalid] (refusing groups reason x) := by
  cases x with
  | ok a => exact confined_ok a
  | error fault =>
    change Confined _ [.invalid] (.error (if fault.isAmong groups then invalid (reason fault.message) else fault))
    split
    next => exact confined_error (.inl rfl)
    next other => exact confined_error (.inr ((hx fault rfl).resolve_left other))

theorem keeps_ok (a : α) : Keeps groups (.ok a : Except Fault α) := confined_ok a

theorem keeps_error {fault : Fault} (h : fault.isAmong groups = true ∨ fault.isStray = true) :
    Keeps groups (.error fault : Except Fault α) := confined_error h

theorem keeps_bind (hx : Keeps groups x) (hf : ∀ a, x = .ok a → Keeps groups (f a)) : Keeps groups (x >>= f) :=
  confined_bind hx hf

theorem keeps_unless {p : Prop} [Decidable p] {refusal : Except Fault PUnit} {next : PUnit → Except Fault α}
    (hrefusal : Keeps groups refusal) (hnext : Keeps groups (next ⟨⟩)) :
    Keeps groups (if p then refusal >>= next else next ⟨⟩) := confined_unless hrefusal hnext

theorem keeps_mapM {f : α → Except Fault β} (hf : ∀ a, Keeps groups (f a)) (items : List α) :
    Keeps groups (items.mapM f) := confined_mapM hf items

theorem Keeps.mono {more : List Group} (h : Keeps groups x) (hmore : ∀ group ∈ groups, group ∈ more) :
    Keeps more x := Confined.mono h hmore

theorem Keeps.imp (h : Keeps groups x) (hpassing : ∀ fault : Fault, fault.isStray = true → passing fault) :
    Confined passing groups x := Confined.imp h hpassing

theorem keeps_refusing {reason : String → String} (hx : Keeps groups x) :
    Keeps [.invalid] (refusing groups reason x) := confined_refusing hx

def refusable : List Group := [.invalid, .key, .kind, .value]

theorem not_among_of_isStray {fault : Fault} (hgroups : ∀ group ∈ groups, group ∈ refusable)
    (h : fault.isStray = true) : fault.isAmong groups = false := by
  have unrefusable : fault.group ∉ refusable := by
    revert h
    cases fault <;> simp [isStray, group, refusable]
  rw [isAmong, ← Bool.not_eq_true, List.contains_iff_mem]
  exact fun member => unrefusable (hgroups _ member)

theorem strays_refusing {reason : String → String} (hgroups : ∀ group ∈ groups, group ∈ refusable) :
    EndsIn isStray (refusing groups reason x) ↔ EndsIn isStray x := by
  cases x with
  | ok a => exact Iff.rfl
  | error fault =>
    rw [endsIn_error]
    change EndsIn isStray (.error (if fault.isAmong groups then invalid (reason fault.message) else fault)) ↔ _
    rw [endsIn_error]
    split
    next among =>
      refine iff_of_false nofun fun stray => ?_
      rw [not_among_of_isStray hgroups stray] at among
      cases among
    next => exact Iff.rfl

theorem unrefused_refusing_invalid {reason : String → String} :
    EndsIn isUnrefused (refusing [.invalid] reason x) ↔ EndsIn isUnrefused x := by
  cases x with
  | ok a => exact Iff.rfl
  | error fault =>
    change EndsIn isUnrefused (.error (if fault.isAmong [.invalid] then invalid (reason fault.message) else fault)) ↔ _
    split
    next among =>
      obtain ⟨given, rfl⟩ := invalid_of_isAmong among
      exact iff_of_false (not_endsIn_invalid (fun _ => rfl) _) (not_endsIn_invalid (fun _ => rfl) _)
    next => exact Iff.rfl

theorem isUnrefused_of_isStray {fault : Fault} (h : fault.isStray = true) : fault.isUnrefused = true := by
  cases fault <;> simp [isStray, isUnrefused] at h ⊢

theorem unrefused_iff_strays (hx : Keeps [.invalid] x) : EndsIn isUnrefused x ↔ EndsIn isStray x := by
  constructor
  · rintro ⟨fault, ended, unrefused⟩
    rcases hx fault ended with invalid | stray
    · obtain ⟨reason, rfl⟩ := invalid_of_isAmong invalid
      cases unrefused
    · exact ⟨fault, ended, stray⟩
  · rintro ⟨fault, ended, stray⟩
    exact ⟨fault, ended, isUnrefused_of_isStray stray⟩

section

variable {v : Value} {style : Value → String} {reason : String → String}

theorem unrefused_refusal : (refusal reason (v.shown style)).isUnrefused = v.holdsLong := by
  unfold Value.shown
  cases v.holdsLong <;> rfl

theorem confined_refusal (long : v.holdsLong = true → passing .unwritable) :
    Confined passing [.invalid] (.error (refusal reason (v.shown style)) : Except Fault α) := by
  unfold Value.shown
  cases h : v.holdsLong with
  | false => exact confined_error (.inl rfl)
  | true => exact confined_error (.inr (long h))

theorem confined_refusingWith (hx : Confined passing groups x) (long : v.holdsLong = true → passing .unwritable) :
    Confined passing [.invalid] (refusingWith groups reason (v.shown style) x) := by
  cases x with
  | ok a => exact confined_ok a
  | error fault =>
    change Confined _ [.invalid] (.error (if fault.isAmong groups then refusal reason (v.shown style) else fault))
    split
    next => exact confined_refusal long
    next other => exact confined_error (.inr ((hx fault rfl).resolve_left other))

theorem unrefused_refusingWith (hgroups : ∀ group ∈ groups, group ∈ refusable) (hx : Keeps groups x) :
    EndsIn isUnrefused (refusingWith groups reason (v.shown style) x) ↔
      EndsIn isStray x ∨ (∀ a, x ≠ .ok a) ∧ v.holdsLong = true := by
  cases x with
  | ok a => exact iff_of_false (not_endsIn_ok a) (by simp)
  | error fault =>
    change EndsIn _ (.error (if fault.isAmong groups then refusal reason (v.shown style) else fault)) ↔ _
    rw [endsIn_error, endsIn_error]
    split
    next among =>
      have kept : fault.isStray = false := by
        cases stray : fault.isStray with
        | false => rfl
        | true => cases (not_among_of_isStray hgroups stray).symm.trans among
      simp [unrefused_refusal, kept]
    next other =>
      have stray := (hx fault rfl).resolve_left other
      exact iff_of_true (isUnrefused_of_isStray stray) (.inl stray)

end

@[simp]
theorem refusingWith_eq_ok {reason : String → String} {shown : Except Fault String} {a : α} :
    refusingWith groups reason shown x = .ok a ↔ x = .ok a := by
  cases x <;> simp [refusingWith]

def eachFrom (f : Nat → α → Except Fault β) (position : Nat) : List α → Except Fault (List β)
  | [] => .ok []
  | a :: rest => do
    let b ← f position a
    return b :: (← eachFrom f (position + 1) rest)

theorem confined_eachFrom {f : Nat → α → Except Fault β} {items : List α}
    (hf : ∀ position, ∀ a ∈ items, Confined passing groups (f position a)) (position : Nat) :
    Confined passing groups (eachFrom f position items) := by
  induction items generalizing position with
  | nil => exact confined_ok []
  | cons a rest ih =>
    apply confined_bind (hf position a (List.mem_cons_self ..))
    intro b _
    apply confined_bind (ih (fun position a ha => hf position a (List.mem_cons_of_mem _ ha)) (position + 1))
    intro bs _
    exact confined_ok (b :: bs)

theorem keeps_eachFrom {f : Nat → α → Except Fault β} {items : List α}
    (hf : ∀ position, ∀ a ∈ items, Keeps groups (f position a)) (position : Nat) :
    Keeps groups (eachFrom f position items) := confined_eachFrom hf position

theorem endsIn_eachFrom {f : Nat → α → Except Fault β} {reads fails : α → Prop}
    (hreads : ∀ position a, Reads? (f position) a ↔ reads a) (hfails : ∀ position a, EndsIn p (f position a) ↔ fails a)
    (position : Nat) (items : List α) : EndsIn p (eachFrom f position items) ↔ Foremost reads fails items := by
  induction items generalizing position with
  | nil => exact iff_of_false (not_endsIn_ok []) not_foremost_nil
  | cons a rest ih =>
    have later (b : β) : EndsIn p (eachFrom f (position + 1) rest >>= fun bs => pure (b :: bs)) ↔
        Foremost reads fails rest := (endsIn_map (g := fun bs => b :: bs)).trans (ih (position + 1))
    rw [eachFrom, foremost_cons, endsIn_bind, hfails, ← hreads position]
    simp only [later]
    simp [Reads?]

theorem eachFrom_reads {f : Nat → α → Except Fault β} {reads : α → Prop}
    (hreads : ∀ position a, Reads? (f position) a ↔ reads a) (position : Nat) (items : List α) :
    (∃ read, eachFrom f position items = .ok read) ↔ ∀ a ∈ items, reads a := by
  induction items generalizing position with
  | nil => simp [eachFrom]
  | cons a rest ih =>
    rw [List.forall_mem_cons, ← hreads position, ← ih (position + 1), eachFrom]
    constructor
    · rintro ⟨read, h⟩
      obtain ⟨b, hb, h⟩ := bind_ok h
      obtain ⟨bs, hbs, -⟩ := bind_ok h
      exact ⟨⟨b, hb⟩, bs, hbs⟩
    · rintro ⟨⟨b, hb⟩, bs, hbs⟩
      exact ⟨b :: bs, by rw [hb]; change (eachFrom f (position + 1) rest >>= _) = _; rw [hbs]; rfl⟩

end

end Preflight
