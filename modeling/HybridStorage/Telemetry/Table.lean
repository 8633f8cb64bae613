import HybridStorage.Delimited.Writer
import HybridStorage.Telemetry.Record

/-!
# Telemetry files

Records as a table of comma-separated values, with a header and one row of twenty columns per
record. Values that are absent are empty.
-/

namespace HybridStorage.Telemetry

open Text

def header : List String :=
  ["cycle", "time", "load_w", "production_w", "grid_w", "status", "direction", "required_w",
    "target_grid_w", "main_area", "main_setpoint_w", "main_w", "main_soc", "main_ready",
    "support_area", "support_setpoint_w", "support_w", "support_soc", "support_ready", "error"]

def reading (n : Int32) : String := Text.ofInt n.toInt

def truth (b : Bool) : String := if b then "true" else "false"

def unitColumns (area : Option ChargeArea) (u : UnitRecord) : List String :=
  [(area.map ChargeArea.name).getD "", (u.setPoint.map reading).getD "", reading u.applied,
    reading u.charge, truth u.ready]

def columns (r : Record) : List String :=
  [Text.ofInt r.cycle, String.ofList r.time.text, reading r.load, reading r.production,
    reading r.grid, r.status.name, (r.direction.map Direction.name).getD "",
    (r.required.map reading).getD "", (r.target.map reading).getD ""] ++
    unitColumns r.mainArea r.main ++ unitColumns r.supportArea r.support ++ [r.error.getD ""]

def table (records : List Record) : List (List String) := header :: records.map columns

def write (records : List Record) : List Char :=
  Delimited.write ((table records).map (·.map String.toList))

end HybridStorage.Telemetry
