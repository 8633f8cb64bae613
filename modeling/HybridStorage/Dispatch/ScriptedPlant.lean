import HybridStorage.Dispatch.Plant
import HybridStorage.Storage.Scripted

/-!
# Scripted plants

A plant of one meter and two scripted units, each known by one identifier.
-/

namespace HybridStorage

structure ScriptedPlant where
  main : ScriptedUnit
  support : ScriptedUnit
  meter : String
  meterPower : Option Watts
  deriving DecidableEq, Repr

instance : Plant ScriptedPlant ScriptedUnit where
  meterPower p id := if id = p.meter then .ok p.meterPower else .error (.componentNotFound id)
  unitPair p first second :=
    if first = p.main.id ∧ second = p.support.id then .ok (p.main, p.support)
    else .error (.componentNotFound second)
  putPair p _ _ pair := { p with main := pair.1, support := pair.2 }

end HybridStorage
