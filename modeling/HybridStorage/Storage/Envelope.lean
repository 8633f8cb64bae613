import HybridStorage.Quantity

/-!
# Power envelopes

A unit moves its power by at most its ramp rate per cycle and never beyond its limits. The envelope
holds the bounds that follow for one cycle, apart for charging (at most 0 W) and for discharging (at
least 0 W). A target is clamped into the range of its sign.
-/

namespace HybridStorage

structure PowerRange where
  lower : Watts
  upper : Watts
  deriving DecidableEq, Repr

namespace PowerRange

def zero : PowerRange := ⟨0, 0⟩

def contains (r : PowerRange) (watts : Watts) : Bool := r.lower ≤ watts ∧ watts ≤ r.upper

/-- Raises to the lower bound, then cuts at the upper one. -/
def clamp (r : PowerRange) (watts : Watts) : Watts := min (max watts r.lower) r.upper

end PowerRange

structure PowerLimits where
  charge : Watts
  discharge : Watts
  charge_nonpos : charge.toInt ≤ 0
  discharge_nonneg : 0 ≤ discharge.toInt
  deriving DecidableEq, Repr

/-- Limits from two magnitudes, whose signs do not matter. -/
def PowerLimits.ofMagnitudes (charge discharge : Watts) : PowerLimits where
  charge := Reading.satNeg (Reading.satAbs charge)
  discharge := Reading.satAbs discharge
  charge_nonpos := by
    simp only [Reading.satNeg, Reading.satAbs, Reading.toInt_saturate, Reading.lowest,
      Reading.highest]
    omega
  discharge_nonneg := by
    simp only [Reading.satAbs, Reading.toInt_saturate, Reading.lowest, Reading.highest]
    omega

structure PowerEnvelope where
  charge : PowerRange
  discharge : PowerRange
  deriving DecidableEq, Repr

namespace PowerEnvelope

/-- The envelope of a unit that is not ready. -/
def closed : PowerEnvelope := ⟨.zero, .zero⟩

/-- The envelope of a ready unit that delivers `current`. A unit beyond a limit may only move back
towards it, and a negative ramp rate counts as zero. -/
def ramped (current ramp : Watts) (limits : PowerLimits) : PowerEnvelope :=
  let ramp := max ramp 0
  let down := Reading.satSub current ramp
  let up := Reading.satAdd current ramp
  let chargeLower := min (max down limits.charge) 0
  let dischargeUpper := max (min up limits.discharge) 0
  { charge := ⟨chargeLower, max (min up 0) chargeLower⟩
    discharge := ⟨min (max down 0) dischargeUpper, dischargeUpper⟩ }

def compute (ready : Bool) (current ramp : Watts) (limits : PowerLimits) : PowerEnvelope :=
  if ready then ramped current ramp limits else closed

/-- The deliverable power nearest to a target, on the target's side of zero. -/
def clamp (e : PowerEnvelope) (target : Watts) : Watts :=
  if 0 ≤ target then e.discharge.clamp target else e.charge.clamp target

def isClosed (e : PowerEnvelope) : Bool := e = closed

end PowerEnvelope

end HybridStorage
