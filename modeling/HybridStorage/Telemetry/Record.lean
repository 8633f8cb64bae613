import HybridStorage.Dispatch.Controller
import HybridStorage.Time.Print

/-!
# Cycle records

A record says what happened in one simulated cycle. `Record.line` is its one-line text.
-/

namespace HybridStorage

open Text

inductive CycleStatus where
  | dispatched
  | offGrid
  | aborted
  deriving DecidableEq, Repr

def CycleStatus.name : CycleStatus → String
  | .dispatched => "dispatched"
  | .offGrid => "off_grid"
  | .aborted => "aborted"

structure UnitRecord where
  setPoint : Option Watts := none
  applied : Watts := 0
  charge : Percent := 0
  ready : Bool := false
  deriving DecidableEq, Repr

structure Record where
  cycle : Nat
  time : Instant
  load : Watts
  production : Watts
  /-- Power drawn from the grid after the set-points were applied. -/
  grid : Watts
  status : CycleStatus := .aborted
  direction : Option Direction := none
  mainArea : Option ChargeArea := none
  supportArea : Option ChargeArea := none
  /-- Power asked of the units together. -/
  required : Option Watts := none
  /-- Grid set-point of a charge cycle. -/
  target : Option Watts := none
  main : UnitRecord := {}
  support : UnitRecord := {}
  error : Option String := none
  deriving DecidableEq, Repr

namespace Record

/-- Fills in how the cycle ended. -/
def withOutcome (r : Record) : Except DispatchError Outcome → Record
  | .error error => { r with error := some error.message }
  | .ok .offGrid => { r with status := .offGrid }
  | .ok (.dispatched d) =>
    { r with
      status := .dispatched
      direction := some d.plan.direction
      mainArea := some d.snapshot.mainArea
      supportArea := some d.snapshot.supportArea
      required := some d.plan.required
      target := d.plan.target
      main := { r.main with setPoint := some d.delivery.mainSetPoint }
      support := { r.support with setPoint := some d.delivery.supportSetPoint } }

def areaText (area : Option ChargeArea) : String := (area.map ChargeArea.name).getD "-"

def powerText (watts : Watts) : String := alignRight 8 (Text.ofInt watts.toInt) ++ " W"

def unitText (name : String) (u : UnitRecord) (area : Option ChargeArea) : String :=
  name ++ "=" ++ powerText u.applied ++ " (" ++ alignRight 3 (Text.ofInt u.charge.toInt) ++ "% " ++
    alignLeft 6 (areaText area) ++ ")"

def line (r : Record) : String :=
  "#" ++ alignRight 4 (Text.ofInt r.cycle) ++ " " ++ String.ofList (r.time.textWith ' ') ++
    " | load=" ++ powerText r.load ++ "  pv=" ++ powerText r.production ++ "  grid=" ++
    powerText r.grid ++ " | " ++ r.status.name ++ " " ++ unitText "main" r.main r.mainArea ++ " " ++
    unitText "support" r.support r.supportArea ++ ((r.error.map (" | " ++ ·)).getD "")

end Record

end HybridStorage
