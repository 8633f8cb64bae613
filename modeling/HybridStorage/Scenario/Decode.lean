import HybridStorage.Scenario.Basic
import HybridStorage.Time.Parse
import HybridStorage.Toml.Value

/-!
# Scenarios as TOML

How the sections of a TOML document become a scenario. A section is a table whose keys are all
known, or an array of its fields in order; fields that are missing keep their defaults. Integers
must fit their fields, and are accepted for real numbers.
-/

namespace HybridStorage

namespace Toml.Value

def text? : Value → Option String
  | .text s => some s
  | _ => none

def truth? : Value → Option Bool
  | .truth b => some b
  | _ => none

def int32? : Value → Option Int32
  | .integer n => (Reading.exact n).toOption
  | _ => none

def natural64? : Value → Option UInt64
  | .integer n => if 0 ≤ n then some (UInt64.ofNat n.toNat) else none
  | _ => none

def real? : Value → Option Binary64
  | .real x => some x
  | .integer n => some (.ofInt n)
  | _ => none

def instant? : Value → Option Instant
  | .text s => Instant.parse? .scenario s.toList
  | _ => none

/-- A value without contents, as it may follow the name of a mode. -/
def isHollow : Value → Bool
  | .array _ [] => true
  | .table _ [] => true
  | _ => false

/-- The name of a mode, alone or as the only key of a table. -/
def gridMode? : Value → Option GridMode
  | .text name => GridMode.ofName? name
  | .table _ [(name, value)] => if value.isHollow then GridMode.ofName? name else none
  | _ => none

def list? {α : Type} (read : Value → Option α) : Value → Option (List α)
  | .array _ items => items.mapM read
  | _ => none

end Toml.Value

namespace Scenario

open Toml

/-- A field of a section: its key, and how a value is put into it. -/
structure Field (σ : Type) where
  key : String
  put : Value → σ → Option σ

/-- A field that `read` reads and `set` fills. -/
def field {σ α : Type} (key : String) (read : Value → Option α) (set : α → σ → σ) : Field σ where
  key
  put value filled := (read value).map fun x => set x filled

def fill {σ : Type} (fields : List (Field σ)) (start : σ) : Value → Option σ
  | .table _ entries =>
    entries.foldlM (fun filled entry => do
      let found ← fields.find? (·.key = entry.1)
      found.put entry.2 filled) start
  | .array _ items =>
    (fields.zip items).foldlM (fun filled pair => pair.1.put pair.2 filled) start
  | _ => none

def simulationFields : List (Field SimulationSpec) :=
  [field "start" Value.instant? fun x s => { s with start := x },
    field "cycle_secs" Value.natural64? fun x s => { s with cycleSeconds := x },
    field "cycles" Value.natural64? fun x s => { s with cycles := x },
    field "seed" Value.natural64? fun x s => { s with seed := x }]

def controllerFields : List (Field Settings) :=
  [field "main_ess_id" Value.text? fun x s => { s with mainUnit := x },
    field "support_ess_id" Value.text? fun x s => { s with supportUnit := x },
    field "meter_id" Value.text? fun x s => { s with meter := x },
    field "default_minimum_energy_wh" Value.int32? fun x s => { s with minimumEnergy := x },
    field "max_grid_power_w" Value.int32? fun x s => { s with maxGridPower := x },
    field "energy_prediction" Value.text? fun x s => { s with energyForecast := some x },
    field "power_prediction" Value.text? fun x s => { s with powerForecast := some x },
    field "net_power_threshold" Value.real? fun x s => { s with aloneBelow := x }]

def unitFields : List (Field UnitSpec) :=
  [field "id" Value.text? fun x u => { u with id := x },
    field "enabled" Value.truth? fun x u => { u with enabled := x },
    field "capacity_wh" Value.int32? fun x u => { u with capacity := x },
    field "initial_soc" Value.int32? fun x u => { u with initialCharge := x },
    field "max_charge_power_w" Value.int32? fun x u => { u with maxCharge := x },
    field "max_discharge_power_w" Value.int32? fun x u => { u with maxDischarge := x },
    field "ramp_rate_w" Value.int32? fun x u => { u with ramp := x },
    field "response_time_ms" Value.natural64? fun x u => { u with response := x },
    field "inactivity_timeout_s" Value.natural64? fun x u => { u with timeout := some x },
    field "grid_mode" Value.gridMode? fun x u => { u with gridMode := x }]

def meterFields : List (Field String) := [field "id" Value.text? fun x _ => x]

def loadFields : List (Field LoadSpec) :=
  [field "base_w" Value.real? fun x l => { l with base := x },
    field "amp_w" Value.real? fun x l => { l with amplitude := x },
    field "phase_rad" Value.real? fun x l => { l with phase := x },
    field "noise_std_w" Value.real? fun x l => { l with deviation := x }]

def productionFields : List (Field ProductionSpec) :=
  [field "peak_w" Value.real? fun x p => { p with peak := x },
    field "sunrise_hour" Value.real? fun x p => { p with sunrise := x },
    field "sunset_hour" Value.real? fun x p => { p with sunset := x },
    field "noise_std" Value.real? fun x p => { p with deviation := x }]

/-- The sections. Units that are listed take the place of the hybrid scenario's. -/
def sections : List (Field Scenario) :=
  [field "simulation" (fill simulationFields .default) fun x s => { s with simulation := x },
    field "controller" (fill controllerFields .default) fun x s => { s with controller := x },
    field "ess" (Value.list? (fill unitFields .default)) fun x s => { s with units := x },
    field "meter" (fill meterFields hybrid.meter) fun x s => { s with meter := x },
    field "load" (fill loadFields .default) fun x s => { s with load := x },
    field "production" (fill productionFields .default) fun x s => { s with production := x }]

def decode : Value → Option Scenario := fill sections hybrid

end Scenario

end HybridStorage
