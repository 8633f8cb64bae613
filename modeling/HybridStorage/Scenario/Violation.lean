import HybridStorage.Binary64.Order
import HybridStorage.Scenario.Basic
import HybridStorage.Site.Profile

/-!
# Violations

What a scenario must keep to so that it can be simulated. `Scenario.violations` lists everything
that it does not keep to, section by section.
-/

namespace HybridStorage

/-- A unit that the controller works with. -/
inductive UnitRole where
  | main
  | support
  deriving DecidableEq, Repr

/-- A power of a unit that is written as a magnitude. -/
inductive UnitPower where
  | maxCharge
  | maxDischarge
  | ramp
  deriving DecidableEq, Repr

/-- A rule that a scenario breaks. Units are named by their position. -/
inductive Violation where
  | noCycleTime
  | noCycles
  | sharedUnit
  | missingUnit (role : UnitRole) (id : String)
  | otherMeter
  | negativeReserve
  | negativeGridPower
  | threshold
  | duplicateUnit (position : Nat) (id : String)
  | noCapacity (position : Nat)
  | initialCharge (position : Nat)
  | negativePower (position : Nat) (power : UnitPower)
  | daylightHours
  | daylightOrder
  | negativePeak
  | negativeNoise
  deriving DecidableEq, Repr

def UnitRole.field : UnitRole → String
  | .main => "controller.main_ess_id"
  | .support => "controller.support_ess_id"

def UnitPower.field : UnitPower → String
  | .maxCharge => "max_charge_power_w"
  | .maxDischarge => "max_discharge_power_w"
  | .ramp => "ramp_rate_w"

namespace Violation

def unitField (position : Nat) (field : String) : String :=
  "ess[" ++ Text.ofInt position ++ "]." ++ field

/-- The path of the field that breaks the rule. -/
def field : Violation → String
  | noCycleTime => "simulation.cycle_secs"
  | noCycles => "simulation.cycles"
  | sharedUnit => UnitRole.support.field
  | missingUnit role _ => role.field
  | otherMeter => "controller.meter_id"
  | negativeReserve => "controller.default_minimum_energy_wh"
  | negativeGridPower => "controller.max_grid_power_w"
  | threshold => "controller.net_power_threshold"
  | duplicateUnit position _ => unitField position "id"
  | noCapacity position => unitField position "capacity_wh"
  | initialCharge position => unitField position "initial_soc"
  | negativePower position power => unitField position power.field
  | daylightHours => "production.sunrise_hour"
  | daylightOrder => "production.sunrise_hour"
  | negativePeak => "production.peak_w"
  | negativeNoise => "load.noise_std_w"

def message : Violation → String
  | noCycleTime => "must be > 0"
  | noCycles => "must be > 0"
  | sharedUnit => "must differ from controller.main_ess_id"
  | missingUnit _ id => "no [[ess]] with id \"" ++ id ++ "\""
  | otherMeter => "must match meter.id"
  | negativeReserve => "must be >= 0"
  | negativeGridPower => "must be >= 0"
  | threshold => "must be in (0.0, 1.0]"
  | duplicateUnit _ id => "duplicate id \"" ++ id ++ "\""
  | noCapacity _ => "must be > 0"
  | initialCharge _ => "must be in [0, 100]"
  | negativePower _ _ => "must be >= 0"
  | daylightHours => "sunrise and sunset must be within [0, 24]"
  | daylightOrder => "must be < production.sunset_hour"
  | negativePeak => "must be >= 0"
  | negativeNoise => "noise must be >= 0"

end Violation

/-- The rule, if it is broken. -/
def Violation.when (broken : Prop) [Decidable broken] (v : Violation) : List Violation :=
  if broken then [v] else []

open Violation

def SimulationSpec.violations (s : SimulationSpec) : List Violation :=
  noCycleTime.when (s.cycleSeconds = 0) ++ noCycles.when (s.cycles = 0)

/-- The controller works with two different units and the meter, all of which must be there. -/
def Settings.violations (c : Settings) (units : List UnitSpec) (meter : String) : List Violation :=
  let missing (role : UnitRole) (id : String) : List Violation :=
    (missingUnit role id).when (id ∉ units.map UnitSpec.id)
  sharedUnit.when (c.mainUnit = c.supportUnit) ++
    missing .main c.mainUnit ++ missing .support c.supportUnit ++
    otherMeter.when (c.meter ≠ meter) ++
    negativeReserve.when (c.minimumEnergy < 0) ++
    negativeGridPower.when (c.maxGridPower < 0) ++
    threshold.when (!(Binary64.lt (.ofNat 0) c.aloneBelow && c.aloneBelow.le (.ofNat 1)))

/-- What the unit at a position breaks, `earlier` being the identifiers before it. -/
def UnitSpec.violations (u : UnitSpec) (position : Nat) (earlier : List String) : List Violation :=
  (duplicateUnit position u.id).when (u.id ∈ earlier) ++
    (noCapacity position).when (u.capacity ≤ 0) ++
    (Violation.initialCharge position).when (¬(0 ≤ u.initialCharge ∧ u.initialCharge ≤ 100)) ++
    (negativePower position .maxCharge).when (u.maxCharge < 0) ++
    (negativePower position .maxDischarge).when (u.maxDischarge < 0) ++
    (negativePower position .ramp).when (u.ramp < 0)

def unitViolations (position : Nat) (earlier : List String) : List UnitSpec → List Violation
  | [] => []
  | u :: rest =>
    u.violations position earlier ++ unitViolations (position + 1) (u.id :: earlier) rest

def ProductionSpec.violations (p : ProductionSpec) (load : LoadSpec) : List Violation :=
  daylightHours.when
      (!(ProductionProfile.isHour p.sunrise && ProductionProfile.isHour p.sunset)) ++
    daylightOrder.when (p.sunset.le p.sunrise) ++
    negativePeak.when (p.peak.lt (.ofNat 0)) ++
    negativeNoise.when (load.deviation.lt (.ofNat 0) || p.deviation.lt (.ofNat 0))

def Scenario.violations (s : Scenario) : List Violation :=
  s.simulation.violations ++ s.controller.violations s.units s.meter ++
    unitViolations 0 [] s.units ++ s.production.violations s.load

end HybridStorage
