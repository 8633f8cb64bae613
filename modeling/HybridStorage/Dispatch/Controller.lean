import HybridStorage.Dispatch.Aggregates
import HybridStorage.Dispatch.Plant
import HybridStorage.Dispatch.Table
import HybridStorage.Forecast.Store

/-!
# Dispatch controller

Once per cycle the controller decides how much power the main and the support unit deliver or take.
`Controller.plan` reads the plant and decides on the required power and the main unit's share;
nothing is written in it. `deliver` asks both units what they grant, the support unit for all that
the main unit leaves, and `emit` writes the set-points of both or of neither.
-/

namespace HybridStorage

structure Settings where
  mainUnit : String
  supportUnit : String
  meter : String
  /-- Reserve where no energy forecast applies, in Wh. -/
  minimumEnergy : WattHours
  /-- Largest power drawn from the grid for charging. -/
  maxGridPower : Watts
  /-- Part of the main unit's largest power below which it discharges alone. -/
  aloneBelow : Binary64
  /-- File with a forecast of the reserve. -/
  energyForecast : Option String
  /-- File with a forecast of the grid set-point while charging. -/
  powerForecast : Option String
  deriving DecidableEq, Repr

def Settings.default : Settings where
  mainUnit := "ess0"
  supportUnit := "ess1"
  meter := "meter0"
  minimumEnergy := 100000
  maxGridPower := 200000
  aloneBelow := .ofQuotient 8 10
  energyForecast := none
  powerForecast := none

inductive Direction where
  | charge
  | discharge
  deriving DecidableEq, Repr

def Direction.name : Direction → String
  | .charge => "charge"
  | .discharge => "discharge"

structure Snapshot where
  gridMode : GridMode
  /-- Grid meter reading, for the record only. -/
  gridPower : Option Watts
  mainArea : ChargeArea
  supportArea : ChargeArea
  /-- Energy stored in both units together, in Wh. -/
  stored : Energy
  consumption : Watts
  deriving DecidableEq, Repr

/-- What a cycle is to achieve. -/
structure Plan where
  direction : Direction
  /-- Production used for charging; an undefined one counts as zero. -/
  production : Watts
  /-- Reserve that applies, in a charge cycle. -/
  minimumEnergy : Option WattHours
  /-- Forecast set-point, in a charge cycle that asks for it. -/
  predictedPower : Option Watts
  /-- Grid set-point aimed at, in a charge cycle. -/
  target : Option Watts
  required : Watts
  share : Share
  deriving DecidableEq, Repr

/-- The powers of a cycle: what is asked of each unit, and the set-points. -/
structure Delivery where
  mainRequest : Watts
  supportRequest : Watts
  mainSetPoint : Watts
  supportSetPoint : Watts
  deriving DecidableEq, Repr

structure Dispatch where
  now : Instant
  snapshot : Snapshot
  plan : Plan
  delivery : Delivery
  deriving DecidableEq, Repr

/-- How a cycle ends that does not fail. -/
inductive Outcome where
  /-- Both units are off the grid, and nothing was written. -/
  | offGrid
  | dispatched (dispatch : Dispatch)
  deriving DecidableEq, Repr

structure Controller where
  settings : Settings
  table : ShareTable
  energyStore : Option Forecast.Store
  powerStore : Option Forecast.Store
  deriving DecidableEq, Repr

namespace Controller

def create (settings : Settings) (table : ShareTable := .default) : Controller where
  settings
  table
  energyStore := settings.energyForecast.map fun path => { path, signed := false }
  powerStore := settings.powerForecast.map fun path => { path, signed := true }

/-- The value that a store has for an instant, and the store after it. Without a store there is no
value. -/
def predict (store : Option Forecast.Store) (disk : Disk) (now : Instant) :
    Option Int32 × Option Forecast.Store :=
  match store with
  | none => (none, none)
  | some store =>
    let found := store.lookup disk now
    (found.value, some found.store)

section Units

variable {α : Type} [StorageUnit α]

/-- The main unit is GREEN and can serve the required power well within its largest one. Without a
known largest power it never serves alone. -/
def servesAlone (c : Controller) (main : α) (area : ChargeArea) (required : Watts) : Bool :=
  match StorageUnit.maxApparent main with
  | none => false
  | some most =>
    Float.ofInt required.toInt < c.settings.aloneBelow.toFloat * Float.ofInt most.toInt ∧
      area = .green

def planDischarge (c : Controller) (main : α) (s : Snapshot) : Plan where
  direction := .discharge
  production := 0
  minimumEnergy := none
  predictedPower := none
  target := none
  required := s.consumption
  share :=
    if c.servesAlone main s.mainArea s.consumption then .all
    else c.table.dischargeShare s.mainArea s.supportArea

/-- The reserve is missed or a unit is RED. -/
def mustCharge (s : Snapshot) (minimum : WattHours) : Bool :=
  s.stored ≤ minimum.toInt ∨ s.mainArea = .red ∨ s.supportArea = .red

/-- A charge cycle aims at a grid set-point: the largest draw if the units must be charged, else the
forecast one as far as it charges, else none. Production is charged on top. -/
def planCharge (c : Controller) (disk : Disk) (sum : Aggregates) (now : Instant) (s : Snapshot) :
    Plan × Controller :=
  let (forecast, energyStore) := predict c.energyStore disk now
  let minimum := forecast.getD c.settings.minimumEnergy
  let forced := mustCharge s minimum
  let (predicted, powerStore) :=
    if forced then (none, c.powerStore) else predict c.powerStore disk now
  let aim := if forced then Reading.satNeg c.settings.maxGridPower else predicted.getD 0
  let target := if 0 < aim then 0 else aim
  let production := sum.production.getD 0
  ({ direction := .charge
     production
     minimumEnergy := some minimum
     predictedPower := predicted
     target := some target
     required := Reading.satSub target production
     share := c.table.chargeShare s.mainArea s.supportArea },
    { c with energyStore, powerStore })

def takeSnapshot (c : Controller) (main support : α) (gridMode : GridMode)
    (gridPower : Option Watts) (sum : Aggregates) : Except Stop Snapshot := do
  let reserve := c.settings.minimumEnergy.toInt
  let mainArea ← ChargeArea.ofUnit reserve main
  let supportArea ← ChargeArea.ofUnit reserve support
  let mainStored ← StorageUnit.storedEnergy main
  let supportStored ← StorageUnit.storedEnergy support
  let stored ← (Energy.exact (mainStored + supportStored)).orStop
  match sum.consumption with
  | none => .error (.abort (.undefinedValue "sum" .consumption))
  | some consumption => pure { gridMode, gridPower, mainArea, supportArea, stored, consumption }

def plan (c : Controller) (disk : Disk) (main : α) (sum : Aggregates) (now : Instant)
    (s : Snapshot) : Plan × Controller :=
  if 0 < s.consumption then (c.planDischarge main s, c) else c.planCharge disk sum now s

/-- Asks both units for their parts. What the main unit does not take moves to the support unit. -/
def deliver (p : Plan) (now : Instant) (main support : α) : Checked (Delivery × α × α) := do
  let (mainRequest, supportRequest) ← p.share.split p.required
  let (mainSetPoint, main) := StorageUnit.grant main now mainRequest
  let rest ← Reading.sub p.required mainSetPoint
  let (supportSetPoint, support) := StorageUnit.grant support now rest
  pure (⟨mainRequest, supportRequest, mainSetPoint, supportSetPoint⟩, main, support)

/-- Writes the set-points of one unit. A unit that rejects one of them keeps none. -/
def writeSetPoints (u : α) (active : Watts) : α × Except DispatchError Unit :=
  match StorageUnit.setActive u active with
  | .error error => (StorageUnit.clearSetPoints u, .error error)
  | .ok written =>
    match StorageUnit.setReactive written 0 with
    | .error error => (StorageUnit.clearSetPoints written, .error error)
    | .ok written => (written, .ok ())

def emit (d : Delivery) (main support : α) : (α × α) × Except DispatchError Unit :=
  match writeSetPoints main d.mainSetPoint with
  | (main, .error error) => ((main, support), .error error)
  | (main, .ok ()) =>
    match writeSetPoints support d.supportSetPoint with
    | (support, .ok ()) => ((main, support), .ok ())
    | (support, .error error) =>
      ((StorageUnit.clearSetPoints main, support),
        .error (.partialEmission (StorageUnit.id main) (StorageUnit.id support) error.message))

end Units

structure Ran (σ : Type) where
  controller : Controller
  plant : σ
  outcome : Except DispatchError Outcome

section Run

variable {σ α : Type} [StorageUnit α] [Plant σ α]

def resolve (c : Controller) (plant : σ) : Except DispatchError (Option Watts × α × α) := do
  let power ← Plant.meterPower plant c.settings.meter
  let (main, support) ← Plant.unitPair plant c.settings.mainUnit c.settings.supportUnit
  pure (power, main, support)

/-- A cycle over two units: everything after they were looked up. -/
def dispatch (c : Controller) (disk : Disk) (plant : σ) (sum : Aggregates) (now : Instant)
    (gridPower : Option Watts) (main support : α) : Checked (Ran σ) := do
  let gridMode := GridMode.combine [StorageUnit.gridMode main, StorageUnit.gridMode support]
  if gridMode = .offGrid then pure ⟨c, plant, .ok .offGrid⟩
  else
    match c.takeSnapshot main support gridMode gridPower sum with
    | .error (.fault fault) => .error fault
    | .error (.abort error) => pure ⟨c, plant, .error error⟩
    | .ok snapshot =>
      let (plan, controller) := c.plan disk main sum now snapshot
      let (delivery, main, support) ← deliver plan now main support
      let (pair, written) := emit delivery main support
      let plant := Plant.putPair plant c.settings.mainUnit c.settings.supportUnit pair
      pure ⟨controller, plant, written.map fun () => .dispatched ⟨now, snapshot, plan, delivery⟩⟩

/-- One control cycle. An error aborts this cycle only. -/
def run (c : Controller) (disk : Disk) (plant : σ) (sum : Aggregates) (now : Instant) :
    Checked (Ran σ) :=
  match c.resolve plant with
  | .error error => .ok ⟨c, plant, .error error⟩
  | .ok (gridPower, main, support) => c.dispatch disk plant sum now gridPower main support

end Run

end Controller

end HybridStorage
