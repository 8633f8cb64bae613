import HybridStorage.Binary64.Basic
import HybridStorage.Storage.Envelope
import HybridStorage.Storage.Readiness
import HybridStorage.Storage.Unit

/-!
# Simulated batteries

A battery starts up, ramps, and integrates its energy over the time between two applications of
power. In each cycle `onCycle` comes first, then a controller asks what the battery grants and
writes set-points, and `applyPending` applies them.
-/

namespace HybridStorage

/-- What stays fixed about a battery. -/
structure Battery.Parameters where
  id : String
  enabled : Bool
  capacity : WattHours
  initialCharge : Percent
  limits : PowerLimits
  /-- The largest change of active power per cycle. -/
  ramp : Watts
  timing : ReadinessTiming
  gridMode : GridMode
  deriving DecidableEq, Repr

structure Battery where
  parameters : Battery.Parameters
  readiness : Readiness
  envelope : PowerEnvelope
  /-- Stored energy in W·ms. -/
  energy : Energy
  charge : Percent
  active : Watts
  reactive : Watts
  pending : SetPoints
  lastApplied : Option Instant
  deriving DecidableEq, Repr

namespace Battery

/-- Milliseconds in an hour: one Wh is this many W·ms. -/
def millisecondsPerHour : Int := 3600000

/-- Capacity in W·ms; a negative capacity counts as none. -/
def Parameters.energyCapacity (p : Parameters) : Checked Energy :=
  Energy.exact (max p.capacity.toInt 0 * millisecondsPerHour)

/-- State of charge at the outset, between 0 and 100. -/
def Parameters.startCharge (p : Parameters) : Percent := min (max p.initialCharge 0) 100

def Parameters.startEnergy (p : Parameters) : Checked Energy := do
  let capacity ← p.energyCapacity
  let product ← Energy.exact (capacity * p.startCharge.toInt)
  pure (product.tdiv 100)

def Parameters.envelope (p : Parameters) (ready : Bool) (current : Watts) : PowerEnvelope :=
  .compute ready current p.ramp p.limits

/-- A battery that has not run yet. -/
def create (p : Parameters) : Checked Battery := do
  let energy ← p.startEnergy
  let readiness := Readiness.initial p.timing
  pure {
    parameters := p
    readiness
    envelope := p.envelope readiness.isReady 0
    energy
    charge := p.startCharge
    active := 0
    reactive := 0
    pending := {}
    lastApplied := none }

def energyInWattHours (b : Battery) : Int := b.energy.tdiv millisecondsPerHour

/-- The start of a cycle: readiness and envelope follow from the power applied before. -/
def onCycle (b : Battery) (now : Instant) : Battery :=
  let readiness := b.readiness.advance b.parameters.timing now b.active
  { b with
    readiness
    envelope := b.parameters.envelope readiness.isReady b.active }

/-- What the battery grants of a requested power. A request that finds it not ready starts it. -/
def grant (b : Battery) (now : Instant) (target : Watts) : Watts × Battery :=
  if !b.readiness.isReady ∧ target ≠ 0 then
    (0, { b with readiness := b.readiness.request now target })
  else (b.envelope.clamp target, b)

def writeActive (b : Battery) (watts : Watts) : Battery :=
  { b with pending := { b.pending with active := some watts } }

def writeReactive (b : Battery) (watts : Watts) : Battery :=
  { b with pending := { b.pending with reactive := some watts } }

/-- Drops the set-points written since the last application. -/
def forgetSetPoints (b : Battery) : Battery := { b with pending := {} }

/-- State of charge of `energy` out of `capacity` W·ms in percent: the quotient is rounded to a
double, so is its product with 100, and a half goes up. -/
def percentage (energy capacity : Energy) : Percent :=
  let quotient := Binary64.nearest energy.toNat capacity.toNat
  let percent := Binary64.nearest (quotient.numerator * 100) quotient.denominator
  Int32.ofInt (min percent.round 100)

/-- Energy and state of charge after the present power has been in force until `now`. Time that runs
backwards counts as none, and a battery without capacity keeps its state. -/
def integrate (b : Battery) (now : Instant) : Checked (Energy × Percent) :=
  match b.lastApplied with
  | none => .ok (b.energy, b.charge)
  | some last => do
    let capacity ← b.parameters.energyCapacity
    if capacity = 0 then pure (b.energy, b.charge)
    else
      let elapsed := max (Duration.milliseconds (now.since last)) 0
      let delivered ← Energy.exact (b.active.toInt * elapsed)
      let left ← Energy.exact (b.energy - delivered)
      let energy := min (max left 0) capacity
      pure (energy, percentage energy capacity)

/-- An empty battery does not discharge and a full one does not charge. -/
def coerce (charge : Percent) (watts : Watts) : Watts :=
  if (charge = 0 ∧ 0 < watts) ∨ (charge = 100 ∧ watts < 0) then 0 else watts

/-- Integrates up to `now` and puts new powers in force. -/
def applyPower (b : Battery) (now : Instant) (active reactive : Watts) : Checked Battery := do
  let (energy, charge) ← b.integrate now
  pure { b with
    energy
    charge
    active := coerce charge active
    reactive := coerce charge reactive
    lastApplied := some now }

/-- Applies the set-points written since the last application; one that is missing means zero. -/
def applyPending (b : Battery) (now : Instant) : Checked Battery :=
  b.forgetSetPoints.applyPower now (b.pending.active.getD 0) (b.pending.reactive.getD 0)

instance : StorageUnit Battery where
  id b := b.parameters.id
  gridMode b := b.parameters.gridMode
  charge b := some b.charge
  capacity b := some b.parameters.capacity
  maxApparent b := some b.parameters.limits.discharge
  grant := grant
  setActive b watts := .ok (b.writeActive watts)
  setReactive b watts := .ok (b.writeReactive watts)
  clearSetPoints := forgetSetPoints

end Battery

end HybridStorage
