import HybridStorage.Quantity
import HybridStorage.Time.Instant

/-!
# Cycle clock

A clock hands out the cycles `0, 1, …, total - 1` once each, cycle `k` at `start + k * period`. The
factor stops growing at the greatest 32-bit integer.
-/

namespace HybridStorage

structure Clock where
  start : Instant
  period : Duration
  total : Nat
  current : Nat := 0

namespace Clock

def timeOf (c : Clock) (cycle : Nat) : Checked Instant :=
  c.start.plus (c.period * min (cycle : Int) Reading.highest)

/-- The next cycle and its time, or `none` once all have run. -/
def tick (c : Clock) : Checked (Option ((Nat × Instant) × Clock)) :=
  if c.current < c.total then do
    let now ← c.timeOf c.current
    pure (some ((c.current, now), { c with current := c.current + 1 }))
  else .ok none

def remaining (c : Clock) : Nat := c.total - c.current

def ticks (c : Clock) : Nat → Checked (List (Nat × Instant) × Clock)
  | 0 => .ok ([], c)
  | n + 1 => do
    match ← c.tick with
    | none => pure ([], c)
    | some (cycle, c) =>
      let (cycles, c) ← c.ticks n
      pure (cycle :: cycles, c)

def run (c : Clock) : Checked (List (Nat × Instant) × Clock) := c.ticks c.remaining

end Clock

end HybridStorage
