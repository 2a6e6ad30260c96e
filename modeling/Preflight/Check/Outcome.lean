import Preflight.Check.Finding
import Preflight.Check.Scan
import Preflight.Fence
import Preflight.Log
import Preflight.Vehicle

namespace Preflight

structure Flags where
  takeoff : Bool := false
  landing : Bool := false
  deriving DecidableEq, Repr

structure Outcome where
  passed : Bool
  flags : Flags
  warning : Bool := false
  findings : List Finding := []
  notes : List Log.Line := []

namespace Outcome

def pass (flags : Flags) : Outcome := { passed := true, flags }

def fail (flags : Flags) (finding : Finding) : Outcome := { passed := false, flags, findings := [finding] }

def unreadable (flags : Flags) (reason : String) (reading : Bool) : Outcome :=
  { fail flags (.storageFailure reading) with
    notes := [Log.line Log.debug .checks s!"Mission storage read failed: {reason}"] }

def withWarning (o : Outcome) : Outcome := { o with warning := true }

end Outcome

structure Context (σ : Type) where
  read : Nat → Reads σ Item
  count : Nat
  vehicle : Vehicle
  fence : Geofence
  distance : Float → Float → Float → Float → Except Fault Float
  hasPosition : Item → Bool

abbrev Check (σ : Type) := Context σ → Flags → Reads σ Outcome

def Context.scan {σ α β : Type} (ctx : Context σ) (start : α)
    (visit : Nat → Item → α → Reads σ (Progress α β)) : Reads σ (Progress α β) :=
  Preflight.scan ctx.read visit ctx.count 0 start

def Context.scanItems {σ α β : Type} (ctx : Context σ) (start : α)
    (visit : Nat → Item → α → Except Fault (Progress α β)) : Reads σ (Progress α β) :=
  ctx.scan start fun index item seen => .ofExcept (visit index item seen)

end Preflight
