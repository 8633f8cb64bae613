import HybridStorage.Site.Basic
import HybridStorage.Site.Profile
import HybridStorage.Telemetry.Record
import HybridStorage.Time.Clock

/-!
# Simulation

An engine runs a site through the cycles of a clock. In each cycle every battery starts the cycle,
load and production are sampled and the meter is read, the controller runs, and every battery
applies its set-points. The controller sees the load net of production, and as production only what
the load leaves over.
-/

namespace HybridStorage

structure Engine where
  site : Site
  controller : Controller
  load : LoadProfile
  production : ProductionProfile
  clock : Clock

/-- What the profiles answer in a cycle, and the profiles after it. -/
structure Sample where
  load : Watts
  production : Watts
  loadProfile : LoadProfile
  productionProfile : ProductionProfile

/-- What a cycle leaves: how the controller ended it, its record and the engine after it. -/
structure Cycled where
  outcome : Except DispatchError Outcome
  record : Record
  engine : Engine

namespace Engine

/-- The record of a unit; all zero for one that is not there. -/
def unitRecord (s : Site) (id : String) : UnitRecord :=
  match s.unit? id with
  | none => {}
  | some b => { applied := b.active, charge := b.charge, ready := b.readiness.isReady }

def aggregates (s : Site) (netLoad : Watts) : Aggregates where
  consumption := some netLoad
  production := some (max (Reading.satNeg netLoad) 0)
  storagePower := s.totalPower
  storageCapacity := s.totalCapacity

def sample (e : Engine) (now : Instant) : Sample :=
  let (load, loadProfile) := e.load.demand now
  let (production, productionProfile) := e.production.power now
  { load, production, loadProfile, productionProfile }

/-- The first part of a cycle with a net load, up to the end of the controller's run. -/
def control (e : Engine) (disk : Disk) (now : Instant) (netLoad : Watts) :
    Checked (Controller.Ran Site) := do
  let started := e.site.startCycle now
  let metered ← started.readMeter e.controller.settings.meter netLoad
  e.controller.run disk metered (aggregates started netLoad) now

/-- A cycle for what the profiles answer. -/
def serve (e : Engine) (disk : Disk) (index : Nat) (now : Instant) (s : Sample) :
    Checked Cycled := do
  let netLoad ← Reading.sub s.load s.production
  let ran ← e.control disk now netLoad
  let site ← ran.plant.applyPending now
  let grid ← Reading.sub netLoad (site.totalPower.getD 0)
  let record : Record := {
    cycle := index
    time := now
    load := s.load
    production := s.production
    grid
    main := unitRecord site e.controller.settings.mainUnit
    support := unitRecord site e.controller.settings.supportUnit }
  pure {
    outcome := ran.outcome
    record := record.withOutcome ran.outcome
    engine := { e with
      site
      controller := ran.controller
      load := s.loadProfile
      production := s.productionProfile } }

def cycle (e : Engine) (disk : Disk) (index : Nat) (now : Instant) : Checked (Record × Engine) := do
  let cycled ← e.serve disk index now (e.sample now)
  pure (cycled.record, cycled.engine)

/-- The next cycle, or `none` once the clock has run out. -/
def step (e : Engine) (disk : Disk) : Checked (Option (Record × Engine)) := do
  match ← e.clock.tick with
  | none => pure none
  | some ((index, now), clock) =>
    let (record, e) ← { e with clock }.cycle disk index now
    pure (some (record, e))

def steps (e : Engine) (disk : Disk) : Nat → Checked (List Record × Engine)
  | 0 => .ok ([], e)
  | n + 1 => do
    match ← e.step disk with
    | none => pure ([], e)
    | some (record, e) =>
      let (records, e) ← e.steps disk n
      pure (record :: records, e)

def run (e : Engine) (disk : Disk) : Checked (List Record × Engine) :=
  e.steps disk e.clock.remaining

end Engine

end HybridStorage
