import Mathlib.Analysis.SpecialFunctions.Trigonometric.Basic
import Preflight.Proofs.Check.Descent

/-!
The landing step of a fixed-wing vehicle in any arithmetic. In doubles it is the step of the check; in real numbers it
says what the step would find if nothing were rounded.
-/
namespace Preflight.Check

/-- What the landing step does with numbers. -/
structure Arithmetic (N : Type) where
  add : N → N → N
  sub : N → N → N
  mul : N → N → N
  div : N → N → N
  abs : N → N
  ofInt : Int → N
  ten : N
  isBelow : N → N → Bool
  isUpTo : N → N → Bool
  isZero : N → Bool
  isPositive : N → Bool
  isFinite : N → Bool
  truncate : N → Except Fault Int
  floor : N → Except Fault Int
  ceiling : N → Except Fault Int
  leastHeight : N
  greatestSlope : N → Except Fault N
  tangentExit : N → N → Except Fault N

structure Scene (I N : Type) where
  code : I → Int
  lat : I → N
  lon : I → N
  altitude : I → N
  relative : I → Bool
  loiterRadius : I → N
  hasPosition : I → Bool
  landingAngle : Option N
  homeAltitude : N
  distance : N → N → N → N → Except Fault N

namespace Scene

variable {I N : Type} (s : Scene I N) (a : Arithmetic N)

def carries (item : I) (c : Command) : Bool := s.code item == c.code

def altitudeAmsl (item : I) : N :=
  if s.relative item then a.add (s.altitude item) s.homeAltitude else s.altitude item

def height (approach land : I) : N := a.sub (s.altitudeAmsl a approach) (s.altitudeAmsl a land)

def length (index : Nat) (approach land : I) : Except Fault (Except Finding N) := do
  if s.carries approach .loiterToAlt then
    let center ← s.distance (s.lat approach) (s.lon approach) (s.lat land) (s.lon land)
    let radius := a.abs (s.loiterRadius approach)
    if a.isUpTo center radius then return .error (.landInsideOrbit index)
    return .ok (← a.tangentExit center radius)
  if s.carries approach .waypoint then
    return .ok (← s.distance (s.lat approach) (s.lon approach) (s.lat land) (s.lon land))
  return .error (.unsupportedApproach (index - 1))

end Scene

namespace Arithmetic

variable {N : Type} (a : Arithmetic N)

def isSteeper (height length greatest : N) : Bool :=
  if a.isPositive length then a.isBelow greatest (a.div height length) else a.isFinite greatest

def quotient (x y : N) : Except Fault N := if a.isZero y then .error .divisionByZero else .ok (a.div x y)

def tenths (angle : N) : Except Fault Int := do
  a.truncate (a.mul (a.sub angle (a.ofInt (← a.floor angle))) a.ten)

def slopeFault (angle height length : N) (index : Nat) : Except Fault (Option Finding) := do
  let greatest ← a.greatestSlope angle
  if a.isSteeper height length greatest then
    let altitude ← a.truncate (a.mul greatest length)
    let needed ← a.ceiling (← a.quotient height greatest)
    return some (.glideSlopeTooSteep index (← a.truncate angle) (← a.tenths angle) altitude needed)
  return none

end Arithmetic

namespace Scene

variable {I N : Type} (s : Scene I N) (a : Arithmetic N)

def approachFault (angle : N) (index : Nat) (approach land : I) : Except Fault (Option Finding) := do
  if !s.hasPosition approach then return some (.approachRequired index)
  let height := s.height a approach land
  if a.isBelow height a.leastHeight then return some (.approachBelowLand (index - 1))
  match ← s.length a index approach land with
  | .error finding => return some finding
  | .ok length => a.slopeFault angle height length index

def step (index : Nat) (before : Except Fault I) (land : I) : Except Fault (Option Finding) := do
  match s.landingAngle with
  | none => return some (.landingAngleMissing index)
  | some angle =>
    if index = 0 then return some (.startsWithLanding false)
    s.approachFault a angle index (← before) land

end Scene

def Arithmetic.double : Arithmetic Float where
  add x y := x + y
  sub x y := x - y
  mul x y := x * y
  div x y := x / y
  abs := Float.abs
  ofInt := Double.ofInt
  ten := 10.0
  isBelow x y := decide (x < y)
  isUpTo x y := decide (x ≤ y)
  isZero x := x == 0.0
  isPositive x := decide (0.0 < x)
  isFinite x := decide (x < Double.infinity)
  truncate := wholeOf
  floor := floorOf
  ceiling := ceilingOf
  leastHeight := leastApproachHeight
  greatestSlope := Geodesy.maxGlideSlope
  tangentExit := Geodesy.tangentExit

def Scene.ofContext {σ : Type} (ctx : Context σ) : Scene Item Float where
  code := Item.code
  lat := Item.lat
  lon := Item.lon
  altitude := Item.altitude
  relative := Item.relative
  loiterRadius := Item.loiterRadius
  hasPosition := ctx.hasPosition
  landingAngle := ctx.vehicle.landingAngle
  homeAltitude := ctx.vehicle.home.altitude
  distance := ctx.distance

section

variable {σ : Type} (ctx : Context σ)

theorem isBelow_double (x y : Float) : Arithmetic.double.isBelow x y = decide (x < y) := rfl

theorem isUpTo_double (x y : Float) : Arithmetic.double.isUpTo x y = decide (x ≤ y) := rfl

theorem height_ofContext (approach land : Item) :
    (Scene.ofContext ctx).height .double approach land = approachHeight ctx.vehicle approach land := rfl

theorem isSteeper_double (height length greatest : Float) :
    Arithmetic.double.isSteeper height length greatest = decide (greatest < glideSlope height length) := by
  unfold Arithmetic.isSteeper glideSlope
  simp only [Arithmetic.double, decide_eq_true_eq]
  split <;> rfl

theorem slopeFault_double (angle height length : Float) (index : Nat) :
    Arithmetic.double.slopeFault angle height length index = slopeFault angle height length index := by
  unfold Arithmetic.slopeFault slopeFault
  simp only [isSteeper_double, decide_eq_true_eq]
  rfl

theorem length_ofContext (index : Nat) (approach land : Item) :
    (Scene.ofContext ctx).length .double index approach land = approachDistance ctx index approach land := by
  unfold Scene.length approachDistance
  simp only [isUpTo_double, decide_eq_true_eq]
  rfl

theorem approachFault_ofContext (angle : Float) (index : Nat) (approach land : Item) :
    (Scene.ofContext ctx).approachFault .double angle index approach land =
      approachFault ctx angle index approach land := by
  rw [approachFault_eq, Scene.approachFault]
  simp only [height_ofContext, length_ofContext, slopeFault_double, isBelow_double, decide_eq_true_eq]
  rcases approachDistance ctx index approach land with fault | finding | length <;> rfl

theorem step_ofContext (index : Nat) (land : Item) (store : σ) :
    ((fixedWingStep ctx index land).run store).1 =
      (Scene.ofContext ctx).step .double index ((ctx.read (index - 1)).run store).1 land := by
  cases given : ctx.vehicle.landingAngle with
  | none =>
    rw [fixedWingStep_missing given, Scene.step, show (Scene.ofContext ctx).landingAngle = none from given]
    rfl
  | some angle =>
    rw [fixedWingStep_angle given, Scene.step, show (Scene.ofContext ctx).landingAngle = some angle from given]
    dsimp only
    split
    · rfl
    · rw [Reads.run_bind]
      rcases (ctx.read (index - 1)).run store with ⟨fault | approach, after⟩
      · rfl
      · exact (approachFault_ofContext ctx angle index approach land).symm

end

end Preflight.Check
