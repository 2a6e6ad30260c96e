import Preflight.Pass
import Preflight.Store.Memory

/-!
Checkers: a store together with all that is known of the flight. `check` runs a pass over a stored mission,
`checkItems` one over a list of items, and a `Session` keeps a checker, its channel and its warning flag from pass
to pass.
-/
namespace Preflight

structure Checker (σ : Type) where
  read : Source σ
  vehicle : Vehicle
  fence : Geofence := .unlimited
  distance : Float → Float → Float → Float → Except Fault Float := Geodesy.distance
  hasPosition : Item → Bool := Item.hasPosition

structure Answer (σ : Type) where
  verdict : Except Fault Verdict
  notes : List Log.Line := []
  summary : List Log.Line := []
  store : σ

namespace Checker

variable {σ : Type}

def context (c : Checker σ) (mission : Mission) : Context σ :=
  { read := fun index => c.read mission.storageId index
    count := mission.count.toNat
    vehicle := c.vehicle
    fence := c.fence
    distance := c.distance
    hasPosition := c.hasPosition }

def check (c : Checker σ) (mission : Mission) (limits : Limits) (store : σ) : Answer σ :=
  if mission.count ≤ 0 then { verdict := .ok .empty, store }
  else
    let trace := Pass.run (c.context mission) limits store
    { verdict := trace.verdict
      notes := trace.notes
      summary := if trace.fault.isNone then [Pass.summary mission trace.outcomes] else []
      store := trace.store }

end Checker

namespace Answer

variable {σ : Type}

def diagnostics (a : Answer σ) : List Diagnostic :=
  match a.verdict with
  | .ok verdict => verdict.diagnostics
  | .error _ => []

def quietLog (a : Answer σ) : List Log.Line := a.notes ++ a.summary

def log (a : Answer σ) : List Log.Line :=
  a.notes ++ a.diagnostics.filterMap (·.toLine.toOption) ++ a.summary

end Answer

def checkItems (ids : Ids) (items : List Item) (vehicle : Vehicle) (fence : Geofence) (limits : Limits) :
    Answer MemoryStore × Ids :=
  let (id, ids) := ids.next
  let checker : Checker MemoryStore := { read := MemoryStore.read, vehicle, fence }
  (checker.check (MemoryStore.handle id items) limits (MemoryStore.insert {} id items), ids)

structure Session where
  store : MemoryStore := {}
  vehicle : Vehicle
  fence : Geofence := .unlimited
  distance : Float → Float → Float → Float → Except Fault Float := Geodesy.distance
  hasPosition : Item → Bool := Item.hasPosition
  emitted : List Diagnostic := []
  warning : Bool := false

namespace Session

def checker (s : Session) : Checker MemoryStore :=
  { read := MemoryStore.read, vehicle := s.vehicle, fence := s.fence, distance := s.distance
    hasPosition := s.hasPosition }

def warningAfter : Except Fault Verdict → Bool
  | .ok verdict => verdict.warning
  | .error _ => false

def setWarning (warning : Bool) : Reads Session Unit := fun s => (.ok (), { s with warning })

def emit (diagnostic : Diagnostic) : Reads Session Unit := fun s =>
  (.ok (), { s with emitted := s.emitted ++ [diagnostic] })

def runChecks (mission : Mission) (limits : Limits) : Reads Session (List Outcome) := fun s =>
  let trace := Pass.run (s.checker.context mission) limits s.store
  match trace.fault with
  | some fault => (.error fault, { s with store := trace.store })
  | none => (.ok trace.outcomes, { s with store := trace.store })

def announce (outcomes : List Outcome) : Reads Session Unit :=
  outcomes.forM fun outcome => outcome.findings.forM fun finding => emit finding.diagnostic

/-- A pass with its effects: the flag is lowered first, and nothing is announced before all checks have ended. -/
def pass (mission : Mission) (limits : Limits) : Reads Session Verdict := do
  setWarning false
  if mission.count ≤ 0 then return .empty
  let outcomes ← runChecks mission limits
  announce outcomes
  let verdict := Verdict.ofOutcomes outcomes
  setWarning verdict.warning
  return verdict

def check (s : Session) (mission : Mission) (limits : Limits) : Except Fault Verdict × Session :=
  (pass mission limits).run s

end Session

end Preflight
