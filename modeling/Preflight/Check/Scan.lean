import Preflight.Fault
import Preflight.Item

/-!
Scans over stored missions. A store is any state that answers reads by index; a read can fail, and can fail another
time than it succeeded. `scan` visits the items in order and stops at the first item that settles the matter or
cannot be read.
-/
namespace Preflight

abbrev Reads (σ α : Type) := ExceptT Fault (StateM σ) α

abbrev Source (σ : Type) := String → Int → Reads σ Item

namespace Reads

variable {σ α β : Type}

def run (x : Reads σ α) (store : σ) : Except Fault α × σ := x store

def ofExcept (x : Except Fault α) : Reads σ α := fun store => (x, store)

def attempt (x : Reads σ α) : Reads σ (Except String α) := fun store =>
  match x store with
  | (.ok a, store) => (.ok (.ok a), store)
  | (.error (.storage reason), store) => (.ok (.error reason), store)
  | (.error fault, store) => (.error fault, store)

end Reads

inductive Progress (α β : Type) where
  | going (seen : α)
  | stopped (result : β)
  | unreadable (reason : String) (seen : α)

/-- Visits `count` items from `index` on. A read that fails within a visit ends the scan as well. -/
def scan {σ α β : Type} (read : Nat → Reads σ Item) (visit : Nat → Item → α → Reads σ (Progress α β)) :
    Nat → Nat → α → Reads σ (Progress α β)
  | 0, _, seen => pure (.going seen)
  | count + 1, index, seen => do
    match ← (read index >>= fun item => visit index item seen).attempt with
    | .error reason => pure (.unreadable reason seen)
    | .ok (.going seen) => scan read visit count (index + 1) seen
    | .ok progress => pure progress

end Preflight
