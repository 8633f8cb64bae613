import HybridStorage.Quantity
import HybridStorage.Time.Instant

/-!
# Readiness

A unit delivers power only after its response time, counted from the first request for a power other
than zero. A ready unit that stays idle for its inactivity timeout shuts down again. `request`
starts the timer and `advance` runs once at the start of each cycle.
-/

namespace HybridStorage

/-- How long a unit takes to start, and how long it stays ready while idle (for ever without a
timeout). -/
structure ReadinessTiming where
  response : Duration
  timeout : Option Duration
  deriving DecidableEq, Repr

inductive Readiness where
  | notReady
  /-- Starting since the instant of the first request. -/
  | starting (since : Instant)
  /-- Delivering power, and idle since the instant given. -/
  | ready (idleSince : Option Instant)
  deriving DecidableEq, Repr

namespace Readiness

/-- A unit without a response time is ready from the outset. -/
def initial (timing : ReadinessTiming) : Readiness :=
  if timing.response ≤ 0 then .ready none else .notReady

def isReady : Readiness → Bool
  | .ready _ => true
  | _ => false

/-- A request for power. It starts a unit that is not ready and leaves a running timer alone. -/
def request (now : Instant) (target : Watts) : Readiness → Readiness
  | .notReady => if target ≠ 0 then .starting now else .notReady
  | state => state

/-- The start of a cycle, at which the unit delivers `applied`. -/
def advance (timing : ReadinessTiming) (now : Instant) (applied : Watts) : Readiness → Readiness
  | .notReady => .notReady
  | .starting since => if timing.response ≤ now.since since then .ready none else .starting since
  | .ready idleSince =>
    if applied ≠ 0 then .ready none
    else
      let idleSince := idleSince.getD now
      match timing.timeout with
      | some timeout => if timeout ≤ now.since idleSince then .notReady else .ready (some idleSince)
      | none => .ready (some idleSince)

end Readiness

end HybridStorage
