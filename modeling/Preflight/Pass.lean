import Preflight.Check.Distance
import Preflight.Check.Items
import Preflight.Check.Landing
import Preflight.Check.Takeoff

/-!
A pass: all checks of a mission, one after another, each given what the ones before it saw. Every check runs,
whatever the others found, so one pass reports all that is wrong with a mission.
-/
namespace Preflight

structure Verdict where
  accepted : Bool
  warning : Bool := false
  diagnostics : List Diagnostic := []

namespace Verdict

def violations (v : Verdict) : List Diagnostic := v.diagnostics.filter Diagnostic.isViolation

def warnings (v : Verdict) : List Diagnostic := v.diagnostics.filter (!·.isViolation)

def empty : Verdict := { accepted := false }

def ofOutcomes (outcomes : List Outcome) : Verdict :=
  { accepted := outcomes.all (·.passed)
    warning := outcomes.any (·.warning)
    diagnostics := (outcomes.flatMap (·.findings)).map Finding.diagnostic }

def toValue (v : Verdict) : Except Fault Value := do
  return .mapping [
    ("accepted", .boolean v.accepted),
    ("warning", .boolean v.warning),
    ("diagnostics", .list (← v.diagnostics.mapM Diagnostic.toValue))]

end Verdict

namespace Pass

variable {σ : Type}

def first (limit : Limit) : Check σ := fun ctx flags =>
  if ctx.vehicle.home.altitudeKnown then Check.firstDistance limit ctx flags
  else pure (.fail flags .noPositionLock)

def checks (airframe : Airframe) (limits : Limits) : List (Check σ) :=
  [first limits.first, Check.validity, Check.betweenDistance limits.between, Check.fence, Check.homeAltitude,
    Check.takeoff, Check.landing airframe, Check.presence]

structure Trace (σ : Type) where
  outcomes : List Outcome
  fault : Option Fault
  store : σ

def runAll (ctx : Context σ) : List (Check σ) → Flags → σ → Trace σ
  | [], _, store => ⟨[], none, store⟩
  | check :: rest, flags, store =>
    match (check ctx flags).run store with
    | (.error fault, store) => ⟨[], some fault, store⟩
    | (.ok outcome, store) =>
      let trace := runAll ctx rest outcome.flags store
      { trace with outcomes := outcome :: trace.outcomes }

def run (ctx : Context σ) (limits : Limits) (store : σ) : Trace σ :=
  runAll ctx (checks ctx.vehicle.airframe limits) {} store

namespace Trace

def verdict (t : Trace σ) : Except Fault Verdict :=
  match t.fault with
  | some fault => .error fault
  | none => .ok (.ofOutcomes t.outcomes)

def notes (t : Trace σ) : List Log.Line := t.outcomes.flatMap (·.notes)

end Trace

def summary (mission : Mission) (outcomes : List Outcome) : Log.Line :=
  let verdict := Verdict.ofOutcomes outcomes
  if verdict.accepted then
    let warned := if verdict.warning then ", with warnings" else ""
    Log.line Log.info .checker s!"Mission {mission.storageId} feasible ({mission.count} items{warned})"
  else
    let failures := (outcomes.filter (!·.passed)).length
    Log.line Log.warning .checker s!"Mission {mission.storageId} rejected: {failures} check(s) failed"

end Pass

end Preflight
