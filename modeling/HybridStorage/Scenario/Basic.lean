import HybridStorage.Dispatch.Controller
import HybridStorage.Storage.Battery

/-!
# Scenarios

A scenario is everything that a simulation is made of: the cycles, the controller, the storage
units, the meter, and the profiles of load and production. Nothing in it is checked here.
`Scenario.hybrid` and `Scenario.sluggishMain` come with the library.
-/

namespace HybridStorage

/-- The number of milliseconds that durations of a scenario do not exceed. -/
def longestMilliseconds : Nat := 9223372036854775807

/-- A number of milliseconds, cut off at the longest duration. -/
def Duration.cutMilliseconds (n : Nat) : Duration := ofMilliseconds (min n longestMilliseconds)

/-- A number of seconds, cut off at the longest duration. -/
def Duration.cutSeconds (n : Nat) : Duration := cutMilliseconds (1000 * n)

structure SimulationSpec where
  start : Instant
  cycleSeconds : UInt64
  cycles : UInt64
  seed : UInt64
  deriving DecidableEq, Repr

structure UnitSpec where
  id : String
  enabled : Bool
  /-- Capacity in Wh. -/
  capacity : Int32
  /-- State of charge at the outset, in percent. -/
  initialCharge : Int32
  /-- Magnitude of the strongest charge power in W. -/
  maxCharge : Int32
  /-- Magnitude of the strongest discharge power in W. -/
  maxDischarge : Int32
  ramp : Int32
  /-- Response time in milliseconds. -/
  response : UInt64
  /-- Inactivity timeout in seconds. -/
  timeout : Option UInt64
  gridMode : GridMode
  deriving DecidableEq, Repr

structure LoadSpec where
  base : Binary64
  amplitude : Binary64
  phase : Binary64
  deviation : Binary64
  deriving DecidableEq, Repr

structure ProductionSpec where
  peak : Binary64
  sunrise : Binary64
  sunset : Binary64
  deviation : Binary64
  deriving DecidableEq, Repr

structure Scenario where
  simulation : SimulationSpec
  controller : Settings
  units : List UnitSpec
  meter : String
  load : LoadSpec
  production : ProductionSpec
  deriving DecidableEq, Repr

namespace SimulationSpec

/-- Nine in the morning of 8 December 2022. -/
def defaultStart : Instant where
  day := (⟨2022, 12, 8⟩ : Date).number
  second := 9 * 3600
  nano := 0
  day_mem := by decide
  second_lt := by decide
  nano_lt := by decide
  leap := by decide

/-- A day in minutes. -/
def default : SimulationSpec := ⟨defaultStart, 60, 1440, 42⟩

end SimulationSpec

namespace UnitSpec

def default : UnitSpec where
  id := "ess0"
  enabled := true
  capacity := 100000
  initialCharge := 50
  maxCharge := 50000
  maxDischarge := 50000
  ramp := 10000
  response := 0
  timeout := none
  gridMode := .onGrid

/-- The redox-flow battery: large and slow. -/
def redox : UnitSpec :=
  { default with
    capacity := 400000
    initialCharge := 30
    maxCharge := 100000
    maxDischarge := 100000
    ramp := 20000
    response := 2000 }

/-- The redox-flow battery with a long start, a slow ramp and a timeout. -/
def sluggishRedox : UnitSpec :=
  { redox with ramp := 5000, response := 30000, timeout := some 300 }

/-- The lithium-ion battery: strong and quick. -/
def lithium : UnitSpec :=
  { default with
    id := "ess1"
    capacity := 276000
    maxCharge := 300000
    maxDischarge := 300000
    ramp := 100000 }

def timing (u : UnitSpec) : ReadinessTiming where
  response := .cutMilliseconds u.response.toNat
  timeout := u.timeout.map fun seconds => .cutSeconds seconds.toNat

def parameters (u : UnitSpec) : Battery.Parameters where
  id := u.id
  enabled := u.enabled
  capacity := u.capacity
  initialCharge := u.initialCharge
  limits := .ofMagnitudes u.maxCharge u.maxDischarge
  ramp := u.ramp
  timing := u.timing
  gridMode := u.gridMode

end UnitSpec

def LoadSpec.default : LoadSpec :=
  ⟨.ofNat 80000, .ofNat 40000, .ofDecimal true 12 (-1), .ofNat 2000⟩

def ProductionSpec.default : ProductionSpec :=
  ⟨.ofNat 150000, .ofNat 7, .ofNat 17, .ofDecimal false 5 (-2)⟩

namespace Scenario

def hybrid : Scenario where
  simulation := .default
  controller := .default
  units := [.redox, .lithium]
  meter := "meter0"
  load := .default
  production := .default

/-- The hybrid scenario at five seconds a cycle, with a main unit that takes half a minute to start,
ramps slowly and shuts down after five idle minutes. -/
def sluggishMain : Scenario :=
  { hybrid with
    simulation := { SimulationSpec.default with cycleSeconds := 5, cycles := 720 }
    units := [.sluggishRedox, .lithium] }

def presets : List (String × Scenario) := [("hybrid", hybrid), ("sluggish_main", sluggishMain)]

end Scenario

end HybridStorage
