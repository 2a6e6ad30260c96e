import Preflight.Value
namespace Preflight.Value

mutual

def alike (v w : Value) : Bool :=
  match v, w with
  | null, null => true
  | boolean a, boolean b => a == b
  | whole a, whole b => a == b
  | real a, real b => decide (a = b)
  | text a, text b => a == b
  | list a, list b => allAlike a b
  | row a, row b => allAlike a b
  | set a, set b => allAlike a b
  | mapping a, mapping b => allEntriesAlike a b
  | table a, table b => allRowsAlike a b
  | octets a, octets b => a == b
  | date a, date b => a == b
  | moment a, moment b => a == b
  | around a, around b => a == b
  | _, _ => false
termination_by structural v

def allAlike (vs ws : List Value) : Bool :=
  match vs, ws with
  | [], [] => true
  | a :: as, b :: bs => a.alike b && allAlike as bs
  | _, _ => false
termination_by structural vs

def allEntriesAlike (vs ws : List (String × Value)) : Bool :=
  match vs, ws with
  | [], [] => true
  | (k, a) :: as, (l, b) :: bs => k == l && a.alike b && allEntriesAlike as bs
  | _, _ => false
termination_by structural vs

def allRowsAlike (vs ws : List (Value × Value)) : Bool :=
  match vs, ws with
  | [], [] => true
  | (k, a) :: as, (l, b) :: bs => k.alike l && a.alike b && allRowsAlike as bs
  | _, _ => false
termination_by structural vs

end

mutual

theorem eq_of_alike (a b : Value) (h : a.alike b = true) : a = b := by
  cases a <;> cases b
  case list.list a b => exact congrArg list (eq_of_allAlike a b h)
  case row.row a b => exact congrArg row (eq_of_allAlike a b h)
  case set.set a b => exact congrArg set (eq_of_allAlike a b h)
  case mapping.mapping a b => exact congrArg mapping (eq_of_allEntriesAlike a b h)
  case table.table a b => exact congrArg table (eq_of_allRowsAlike a b h)
  case real.real a b => exact congrArg real (of_decide_eq_true h)
  all_goals first | rfl | cases h | exact congrArg _ (eq_of_beq h)
termination_by structural a

theorem eq_of_allAlike (as bs : List Value) (h : allAlike as bs = true) : as = bs := by
  cases as <;> cases bs
  case nil.nil => rfl
  case cons.cons a as b bs =>
    have parts : a.alike b = true ∧ allAlike as bs = true := by simpa [allAlike] using h
    rw [eq_of_alike a b parts.1, eq_of_allAlike as bs parts.2]
  all_goals cases h
termination_by structural as

theorem eq_of_allEntriesAlike (as bs : List (String × Value)) (h : allEntriesAlike as bs = true) : as = bs := by
  match as, bs with
  | [], [] => rfl
  | (k, a) :: as, (l, b) :: bs =>
    have parts : (k = l ∧ a.alike b = true) ∧ allEntriesAlike as bs = true := by simpa [allEntriesAlike] using h
    rw [parts.1.1, eq_of_alike a b parts.1.2, eq_of_allEntriesAlike as bs parts.2]
  | [], _ :: _ | _ :: _, [] => cases h
termination_by structural as

theorem eq_of_allRowsAlike (as bs : List (Value × Value)) (h : allRowsAlike as bs = true) : as = bs := by
  match as, bs with
  | [], [] => rfl
  | (k, a) :: as, (l, b) :: bs =>
    have parts : (k.alike l = true ∧ a.alike b = true) ∧ allRowsAlike as bs = true := by simpa [allRowsAlike] using h
    rw [eq_of_alike k l parts.1.1, eq_of_alike a b parts.1.2, eq_of_allRowsAlike as bs parts.2]
  | [], _ :: _ | _ :: _, [] => cases h
termination_by structural as

end

mutual

theorem alike_self (v : Value) : v.alike v = true := by
  cases v with
  | list items | row items | set items => exact allAlike_self items
  | mapping entries => exact allEntriesAlike_self entries
  | table rows => exact allRowsAlike_self rows
  | _ => simp [alike]
termination_by structural v

theorem allAlike_self (items : List Value) : allAlike items items = true := by
  match items with
  | [] => rfl
  | v :: rest => simp [allAlike, alike_self v, allAlike_self rest]
termination_by structural items

theorem allEntriesAlike_self (entries : List (String × Value)) : allEntriesAlike entries entries = true := by
  match entries with
  | [] => rfl
  | (_, v) :: rest => simp [allEntriesAlike, alike_self v, allEntriesAlike_self rest]
termination_by structural entries

theorem allRowsAlike_self (rows : List (Value × Value)) : allRowsAlike rows rows = true := by
  match rows with
  | [] => rfl
  | (k, v) :: rest => simp [allRowsAlike, alike_self k, alike_self v, allRowsAlike_self rest]
termination_by structural rows

end

instance : DecidableEq Value := fun v w =>
  decidable_of_iff (v.alike w = true) ⟨eq_of_alike v w, fun same => same ▸ alike_self v⟩

end Preflight.Value
