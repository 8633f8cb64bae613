import HybridStorage.Quantity

/-!
# Site aggregates

Readings of the whole site, any of which may be undefined, and the total of several readings.
-/

namespace HybridStorage

structure Aggregates where
  consumption : Option Watts := none
  /-- Positive while producing. -/
  production : Option Watts := none
  storagePower : Option Watts := none
  storageCapacity : Option WattHours := none
  deriving DecidableEq, Repr

/-- The sum of readings; undefined if one of them is. -/
def Aggregates.total (readings : List (Option Int32)) : Option Int32 :=
  readings.foldlM (fun sum reading => reading.map (Reading.satAdd sum)) 0

end HybridStorage
