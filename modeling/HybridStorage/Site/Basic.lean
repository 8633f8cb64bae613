import HybridStorage.Dispatch.Aggregates
import HybridStorage.Dispatch.Plant
import HybridStorage.Site.Roster
import HybridStorage.Storage.Battery

/-!
# Sites

A site owns batteries and grid meters under their identifiers. They are looked up again in every
cycle, since an insertion may replace the one behind an identifier. Components that are switched off
cannot be looked up.
-/

namespace HybridStorage

/-- A grid meter and its reading, positive when power is drawn from the grid. -/
structure Meter where
  id : String
  enabled : Bool := true
  power : Option Watts := none
  deriving DecidableEq, Repr

structure Site where
  units : Roster Battery
  meters : Roster Meter

namespace Site

def empty : Site := ⟨.empty, .empty⟩

/-- The battery under an identifier, switched off or not. -/
def unit? (s : Site) (id : String) : Option Battery := s.units.get? id

/-- Adds a battery or replaces the one under its identifier; the answer is the one replaced. -/
def insertUnit (s : Site) (b : Battery) : Option Battery × Site :=
  (s.unit? b.parameters.id, { s with units := s.units.insert b.parameters.id b })

def removeUnit (s : Site) (id : String) : Option Battery × Site :=
  (s.unit? id, { s with units := s.units.erase id })

def insertMeter (s : Site) (m : Meter) : Option Meter × Site :=
  (s.meters.get? m.id, { s with meters := s.meters.insert m.id m })

/-- A component that is there and switched on. -/
def require {α : Type} (id : String) (enabled : α → Bool) : Option α → Except DispatchError α
  | none => .error (.componentNotFound id)
  | some x => if enabled x then .ok x else .error (.componentDisabled id)

def unit (s : Site) (id : String) : Except DispatchError Battery :=
  require id (·.parameters.enabled) (s.unit? id)

def meter (s : Site) (id : String) : Except DispatchError Meter :=
  require id (·.enabled) (s.meters.get? id)

/-- Two different batteries that are switched on. -/
def unitPair (s : Site) (first second : String) : Except DispatchError (Battery × Battery) :=
  if first = second then .error (.sharedComponent first)
  else do
    let a ← s.unit first
    let b ← s.unit second
    pure (a, b)

def updateUnit (s : Site) (id : String) (b : Battery) : Site :=
  { s with units := s.units.replace id b }

instance : Plant Site Battery where
  meterPower s id := (s.meter id).map (·.power)
  unitPair := unitPair
  putPair s first second pair := (s.updateUnit first pair.1).updateUnit second pair.2

def startCycle (s : Site) (now : Instant) : Site :=
  { s with units := s.units.map (·.onCycle now) }

def applyPending (s : Site) (now : Instant) : Checked Site := do
  let units ← s.units.tryMap (·.applyPending now)
  pure { s with units }

def totalPower (s : Site) : Option Watts := Aggregates.total (s.units.values.map (some ·.active))

def totalCapacity (s : Site) : Option WattHours :=
  Aggregates.total (s.units.values.map (some ·.parameters.capacity))

/-- Sets the reading of a meter, if there is one, to the load that the batteries do not serve. -/
def readMeter (s : Site) (id : String) (load : Watts) : Checked Site :=
  match s.meters.get? id with
  | none => .ok s
  | some meter =>
    match s.totalPower with
    | none => .ok { s with meters := s.meters.replace id { meter with power := none } }
    | some served => do
      let power ← Reading.sub load served
      pure { s with meters := s.meters.replace id { meter with power := some power } }

end Site

end HybridStorage
