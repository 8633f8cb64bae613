import HybridStorage.Storage.Envelope
import HybridStorage.Storage.Unit

/-!
# Scripted units

A unit whose readings, envelope and rejections are given. It is always ready.
-/

namespace HybridStorage

structure ScriptedUnit where
  id : String
  gridMode : GridMode
  charge : Option Percent
  capacity : Option WattHours
  maxApparent : Option Watts
  envelope : PowerEnvelope
  rejectsActive : Option String
  rejectsReactive : Option String
  setPoints : SetPoints
  deriving DecidableEq, Repr

namespace ScriptedUnit

def accept (u : ScriptedUnit) (reason : Option String) (accepted : SetPoints) :
    Except DispatchError ScriptedUnit :=
  match reason with
  | some reason => .error (.setPointRejected u.id reason)
  | none => .ok { u with setPoints := accepted }

instance : StorageUnit ScriptedUnit where
  id := id
  gridMode := gridMode
  charge := charge
  capacity := capacity
  maxApparent := maxApparent
  grant u _ target := (u.envelope.clamp target, u)
  setActive u watts := u.accept u.rejectsActive { u.setPoints with active := some watts }
  setReactive u watts := u.accept u.rejectsReactive { u.setPoints with reactive := some watts }
  clearSetPoints u := { u with setPoints := {} }

end ScriptedUnit

end HybridStorage
