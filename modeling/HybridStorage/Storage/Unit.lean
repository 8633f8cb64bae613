import HybridStorage.Dispatch.Error
import HybridStorage.Storage.GridMode
import HybridStorage.Time.Instant

/-!
# Storage units

`StorageUnit` is what the dispatch of power needs of a unit: readings that may be undefined, the
power it grants this cycle, and set-points for active and reactive power that it may reject.
-/

namespace HybridStorage

class StorageUnit (α : Type) where
  id : α → String
  gridMode : α → GridMode
  charge : α → Option Percent
  capacity : α → Option WattHours
  /-- The largest power that the unit can deliver. -/
  maxApparent : α → Option Watts
  /-- How much of a requested power the unit delivers this cycle. Asking may start the unit. -/
  grant : α → Instant → Watts → Watts × α
  /-- Writes the active set-point. The last one written counts. -/
  setActive : α → Watts → Except DispatchError α
  setReactive : α → Watts → Except DispatchError α
  clearSetPoints : α → α

/-- Set-points written since the last application. -/
structure SetPoints where
  active : Option Watts := none
  reactive : Option Watts := none
  deriving DecidableEq, Repr

namespace StorageUnit

variable {α : Type} [StorageUnit α]

/-- The capacity, or an error that names it as undefined. -/
def requireCapacity (u : α) : Except Stop WattHours :=
  match capacity u with
  | some capacity => .ok capacity
  | none => .error (.abort (.undefinedValue (id u) .capacity))

def requireCharge (u : α) : Except Stop Percent :=
  match charge u with
  | some charge => .ok charge
  | none => .error (.abort (.undefinedValue (id u) .stateOfCharge))

/-- The stored energy in Wh by the readings, `capacity * charge / 100` towards zero. -/
def storedEnergy (u : α) : Except Stop Energy := do
  let capacity ← requireCapacity u
  let charge ← requireCharge u
  let product ← (Energy.exact (capacity.toInt * charge.toInt)).orStop
  pure (product.tdiv 100)

end StorageUnit

end HybridStorage
