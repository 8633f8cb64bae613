import HybridStorage.Storage.Battery

/-!
# Operations on a battery

Everything that can happen to a battery after it was created, as data. `Battery.perform` is one
operation and its answer, `Battery.performAll` a history of them.
-/

namespace HybridStorage.Battery

inductive Operation where
  | startCycle (now : Instant)
  | grant (now : Instant) (target : Watts)
  | setActive (watts : Watts)
  | setReactive (watts : Watts)
  | clearSetPoints
  | applyPending (now : Instant)
  | applyPower (now : Instant) (active reactive : Watts)
  deriving DecidableEq, Repr

/-- Performs an operation. A request answers the granted power, and the application of set-points
the active power in force after it. -/
def perform (b : Battery) : Operation → Checked (Option Watts × Battery)
  | .startCycle now => .ok (none, b.onCycle now)
  | .grant now target =>
    let (watts, b) := b.grant now target
    .ok (some watts, b)
  | .setActive watts => .ok (none, b.writeActive watts)
  | .setReactive watts => .ok (none, b.writeReactive watts)
  | .clearSetPoints => .ok (none, b.forgetSetPoints)
  | .applyPending now => do
    let b ← b.applyPending now
    pure (some b.active, b)
  | .applyPower now active reactive => do
    let b ← b.applyPower now active reactive
    pure (none, b)

/-- The battery after a history of operations. -/
def performAll (b : Battery) : List Operation → Checked Battery
  | [] => .ok b
  | operation :: rest => do
    let (_, b) ← b.perform operation
    b.performAll rest

end HybridStorage.Battery
