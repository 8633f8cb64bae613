import HybridStorage.Proofs.Readings
import HybridStorage.Storage.Envelope
import HybridStorage.Storage.Unit

/-!
# Bounds of envelopes

An envelope keeps its charge range at or below zero, its discharge range at or above it, and both
within the limits, whatever power the unit delivers. A clamped target is the nearest power of the
range that the target's sign selects.
-/

namespace HybridStorage

namespace PowerRange

theorem contains_iff {r : PowerRange} {watts : Watts} :
    r.contains watts = true ↔ r.lower.toInt ≤ watts.toInt ∧ watts.toInt ≤ r.upper.toInt := by
  simp [contains, Int32.le_iff_toInt_le]

theorem toInt_clamp (r : PowerRange) (watts : Watts) :
    (r.clamp watts).toInt = min (max watts.toInt r.lower.toInt) r.upper.toInt := by
  rw [clamp, toInt_min, toInt_max]

/-- The power is `n` away from the nearest one in the range. -/
def IsDistance (r : PowerRange) (watts : Watts) (n : Nat) : Prop :=
  (∃ nearest, r.contains nearest = true ∧ (watts.toInt - nearest.toInt).natAbs = n) ∧
    ∀ other, r.contains other = true → n ≤ (watts.toInt - other.toInt).natAbs

theorem clamp_mem {r : PowerRange} (ordered : r.lower.toInt ≤ r.upper.toInt) (watts : Watts) :
    r.contains (r.clamp watts) = true := by
  rw [contains_iff, toInt_clamp]
  omega

theorem clamp_of_mem {r : PowerRange} {watts : Watts} (member : r.contains watts = true) :
    r.clamp watts = watts := by
  obtain ⟨low, high⟩ := contains_iff.mp member
  apply Int32.toInt_inj.mp
  rw [toInt_clamp]
  omega

theorem clamp_isDistance {r : PowerRange} (ordered : r.lower.toInt ≤ r.upper.toInt)
    (watts : Watts) : r.IsDistance watts (watts.toInt - (r.clamp watts).toInt).natAbs := by
  refine ⟨⟨r.clamp watts, clamp_mem ordered watts, rfl⟩, ?_⟩
  intro other member
  obtain ⟨low, high⟩ := contains_iff.mp member
  rw [toInt_clamp]
  omega

end PowerRange

theorem PowerLimits.toInt_ofMagnitudes {charge discharge : Watts} (chargeNonneg : 0 ≤ charge.toInt)
    (dischargeNonneg : 0 ≤ discharge.toInt) :
    (ofMagnitudes charge discharge).charge.toInt = -charge.toInt ∧
      (ofMagnitudes charge discharge).discharge.toInt = discharge.toInt := by
  have chargeHigh := Reading.toInt_le_highest charge
  have dischargeHigh := Reading.toInt_le_highest discharge
  unfold Reading.highest at chargeHigh dischargeHigh
  simp only [ofMagnitudes, Reading.satNeg, Reading.satAbs, Reading.toInt_saturate, Reading.lowest,
    Reading.highest]
  omega

namespace PowerEnvelope

/-- Both ranges are ordered and on their own sides of zero. -/
structure Ordered (e : PowerEnvelope) : Prop where
  charge : e.charge.lower.toInt ≤ e.charge.upper.toInt
  charge_nonpos : e.charge.upper.toInt ≤ 0
  discharge_nonneg : 0 ≤ e.discharge.lower.toInt
  discharge : e.discharge.lower.toInt ≤ e.discharge.upper.toInt

/-- The range that a target is clamped into. -/
def side (e : PowerEnvelope) (target : Watts) : PowerRange :=
  if 0 ≤ target then e.discharge else e.charge

/-- The power lies in one of the ranges. -/
def Admits (e : PowerEnvelope) (watts : Watts) : Prop :=
  e.charge.contains watts = true ∨ e.discharge.contains watts = true

theorem clamp_eq (e : PowerEnvelope) (target : Watts) :
    e.clamp target = (e.side target).clamp target := by
  unfold clamp side
  split <;> rfl

theorem Ordered.side {e : PowerEnvelope} (ordered : e.Ordered) (target : Watts) :
    (e.side target).lower.toInt ≤ (e.side target).upper.toInt := by
  unfold PowerEnvelope.side
  split
  · exact ordered.discharge
  · exact ordered.charge

theorem Ordered.admits_clamp {e : PowerEnvelope} (ordered : e.Ordered) (target : Watts) :
    e.Admits (e.clamp target) := by
  have member := PowerRange.clamp_mem (ordered.side target) target
  rw [← clamp_eq] at member
  unfold PowerEnvelope.side at member
  split at member
  · exact .inr member
  · exact .inl member

theorem ordered_closed : closed.Ordered := by
  constructor <;> decide

theorem admits_closed_iff {watts : Watts} : closed.Admits watts ↔ watts = 0 := by
  simp only [Admits, closed, PowerRange.contains_iff, PowerRange.zero, ← Int32.toInt_inj,
    Int32.toInt_zero]
  omega

/-- The four bounds of a ready unit as integers. -/
theorem toInt_ramped (current ramp : Watts) (limits : PowerLimits) :
    let e := ramped current ramp limits
    let down := (Reading.satSub current (max ramp 0)).toInt
    let up := (Reading.satAdd current (max ramp 0)).toInt
    e.charge.lower.toInt = min (max down limits.charge.toInt) 0 ∧
      e.charge.upper.toInt = max (min up 0) e.charge.lower.toInt ∧
      e.discharge.lower.toInt = min (max down 0) e.discharge.upper.toInt ∧
      e.discharge.upper.toInt = max (min up limits.discharge.toInt) 0 := by
  simp only [ramped, toInt_min, toInt_max, Int32.toInt_zero, and_self]

theorem ordered_ramped (current ramp : Watts) (limits : PowerLimits) :
    (ramped current ramp limits).Ordered := by
  obtain ⟨chargeLower, chargeUpper, dischargeLower, dischargeUpper⟩ :=
    toInt_ramped current ramp limits
  constructor <;> omega

theorem ordered_compute (ready : Bool) (current ramp : Watts) (limits : PowerLimits) :
    (compute ready current ramp limits).Ordered := by
  cases ready with
  | true => exact ordered_ramped current ramp limits
  | false => exact ordered_closed

theorem charge_le_ramped (current ramp : Watts) (limits : PowerLimits) :
    limits.charge.toInt ≤ (ramped current ramp limits).charge.lower.toInt := by
  have nonpos := limits.charge_nonpos
  obtain ⟨lower, -, -, -⟩ := toInt_ramped current ramp limits
  omega

theorem ramped_le_discharge (current ramp : Watts) (limits : PowerLimits) :
    (ramped current ramp limits).discharge.upper.toInt ≤ limits.discharge.toInt := by
  have nonneg := limits.discharge_nonneg
  obtain ⟨-, -, -, upper⟩ := toInt_ramped current ramp limits
  omega

/-- The target lies on the other side of zero, further away from the present power than the ramp
rate. Zero counts as a target for discharging. -/
def OutOfReach (current ramp target : Watts) : Prop :=
  (0 ≤ target.toInt ∧ current.toInt < -ramp.toInt) ∨
    (target.toInt < 0 ∧ ramp.toInt < current.toInt)

theorem side_of_nonneg {target : Watts} (e : PowerEnvelope) (nonneg : 0 ≤ target.toInt) :
    e.side target = e.discharge := by
  apply if_pos
  rw [Int32.le_iff_toInt_le, Int32.toInt_zero]
  exact nonneg

theorem side_of_neg {target : Watts} (e : PowerEnvelope) (negative : target.toInt < 0) :
    e.side target = e.charge := by
  apply if_neg
  rw [Int32.le_iff_toInt_le, Int32.toInt_zero]
  omega

/-- The powers that one ramp up and one ramp down lead to, as integers. -/
theorem toInt_ramp (current ramp : Watts) :
    (Reading.satSub current (max ramp 0)).toInt =
        max Reading.lowest (current.toInt - max ramp.toInt 0) ∧
      (Reading.satAdd current (max ramp 0)).toInt =
        min (current.toInt + max ramp.toInt 0) Reading.highest := by
  have low := Reading.lowest_le_toInt current
  have high := Reading.toInt_le_highest current
  rw [Reading.toInt_satSub, Reading.toInt_satAdd, toInt_max, Int32.toInt_zero]
  unfold Reading.lowest Reading.highest at *
  omega

theorem Ordered.clamp_bounds {e : PowerEnvelope} (ordered : e.Ordered) (target : Watts) :
    (e.side target).lower.toInt ≤ (e.clamp target).toInt ∧
      (e.clamp target).toInt ≤ (e.side target).upper.toInt := by
  rw [clamp_eq]
  exact PowerRange.contains_iff.mp (PowerRange.clamp_mem (ordered.side target) target)

/-- Out of reach, both bounds on the target's side are zero, and the unit drops to it at once. -/
theorem clamp_ramped_of_outOfReach {current ramp target : Watts} (nonneg : 0 ≤ ramp.toInt)
    (limits : PowerLimits) (far : OutOfReach current ramp target) :
    (ramped current ramp limits).clamp target = 0 := by
  have ordered := ordered_ramped current ramp limits
  obtain ⟨low, high⟩ := ordered.clamp_bounds target
  obtain ⟨lower, -, -, upper⟩ := toInt_ramped current ramp limits
  obtain ⟨down, up⟩ := toInt_ramp current ramp
  apply Int32.toInt_inj.mp
  rw [Int32.toInt_zero]
  rcases far with ⟨positive, charging⟩ | ⟨negative, discharging⟩
  · rw [side_of_nonneg _ positive] at low high
    have zero : (ramped current ramp limits).discharge.upper.toInt = 0 := by
      rw [upper, up]
      omega
    have above := ordered.discharge_nonneg
    omega
  · rw [side_of_neg _ negative] at low high
    have zero : (ramped current ramp limits).charge.lower.toInt = 0 := by
      rw [lower, down]
      omega
    have below := ordered.charge_nonpos
    omega

theorem discharge_within_ramp {current ramp : Watts} {limits : PowerLimits}
    (nonneg : 0 ≤ ramp.toInt) (below : current.toInt ≤ limits.discharge.toInt)
    (reached : -ramp.toInt ≤ current.toInt) :
    current.toInt - ramp.toInt ≤ (ramped current ramp limits).discharge.lower.toInt ∧
      (ramped current ramp limits).discharge.upper.toInt ≤ current.toInt + ramp.toInt := by
  have dischargeNonneg := limits.discharge_nonneg
  obtain ⟨-, -, lower, upper⟩ := toInt_ramped current ramp limits
  obtain ⟨down, up⟩ := toInt_ramp current ramp
  have highest := Reading.toInt_le_highest current
  rw [lower, upper, down, up]
  omega

theorem charge_within_ramp {current ramp : Watts} {limits : PowerLimits}
    (nonneg : 0 ≤ ramp.toInt) (above : limits.charge.toInt ≤ current.toInt)
    (reached : current.toInt ≤ ramp.toInt) :
    current.toInt - ramp.toInt ≤ (ramped current ramp limits).charge.lower.toInt ∧
      (ramped current ramp limits).charge.upper.toInt ≤ current.toInt + ramp.toInt := by
  have chargeNonpos := limits.charge_nonpos
  obtain ⟨lower, upper, -, -⟩ := toInt_ramped current ramp limits
  obtain ⟨down, up⟩ := toInt_ramp current ramp
  have lowest := Reading.lowest_le_toInt current
  rw [upper, lower, down, up]
  omega

theorem clamp_ramped_of_inReach {current ramp target : Watts} {limits : PowerLimits}
    (nonneg : 0 ≤ ramp.toInt) (above : limits.charge.toInt ≤ current.toInt)
    (below : current.toInt ≤ limits.discharge.toInt) (near : ¬OutOfReach current ramp target) :
    (((ramped current ramp limits).clamp target).toInt - current.toInt).natAbs ≤ ramp.toInt := by
  obtain ⟨low, high⟩ := (ordered_ramped current ramp limits).clamp_bounds target
  unfold OutOfReach at near
  by_cases positive : 0 ≤ target.toInt
  · rw [side_of_nonneg _ positive] at low high
    obtain ⟨lower, upper⟩ := discharge_within_ramp nonneg below (by omega)
    omega
  · rw [side_of_neg _ (by omega)] at low high
    obtain ⟨lower, upper⟩ := charge_within_ramp nonneg above (by omega)
    omega

/-- A unit is brought back to its limits, so no envelope leaves them. -/
theorem within_limits_of_admits {ready : Bool} {current ramp watts : Watts} {limits : PowerLimits}
    (admitted : (compute ready current ramp limits).Admits watts) :
    limits.charge.toInt ≤ watts.toInt ∧ watts.toInt ≤ limits.discharge.toInt := by
  have nonpos := limits.charge_nonpos
  have nonneg := limits.discharge_nonneg
  cases ready with
  | false =>
    obtain rfl := admits_closed_iff.mp admitted
    exact ⟨nonpos, nonneg⟩
  | true =>
    have ordered := ordered_ramped current ramp limits
    rcases admitted with admitted | admitted
    · obtain ⟨low, high⟩ := PowerRange.contains_iff.mp admitted
      have bound := charge_le_ramped current ramp limits
      have side := ordered.charge_nonpos
      exact ⟨Int.le_trans bound low, Int.le_trans high (Int.le_trans side nonneg)⟩
    · obtain ⟨low, high⟩ := PowerRange.contains_iff.mp admitted
      have bound := ramped_le_discharge current ramp limits
      have side := ordered.discharge_nonneg
      exact ⟨Int.le_trans nonpos (Int.le_trans side low), Int.le_trans high bound⟩

end PowerEnvelope

section Units

variable {α : Type} [StorageUnit α]

/-- In its present state the unit grants nothing unless it is ready, and otherwise the target
clamped into an envelope in order. -/
structure Grants (u : α) (ready : Bool) (e : PowerEnvelope) : Prop where
  ordered : e.Ordered
  granted : ∀ (now : Instant) (target : Watts),
    (StorageUnit.grant u now target).1 = if ready then e.clamp target else 0

/-- The powers that a unit can deliver on a target's side of zero. -/
def PowerEnvelope.reach (e : PowerEnvelope) (ready : Bool) (target : Watts) : PowerRange :=
  if ready then e.side target else .zero

theorem Grants.reach_ordered {u : α} {ready : Bool} {e : PowerEnvelope} (grants : Grants u ready e)
    (target : Watts) : (e.reach ready target).lower.toInt ≤ (e.reach ready target).upper.toInt := by
  cases ready with
  | true => exact grants.ordered.side target
  | false => exact Int.le_refl 0

theorem PowerRange.clamp_zero (watts : Watts) : PowerRange.zero.clamp watts = 0 := by
  apply Int32.toInt_inj.mp
  rw [toInt_clamp, zero, Int32.toInt_zero]
  omega

theorem Grants.eq_clamp {u : α} {ready : Bool} {e : PowerEnvelope} (grants : Grants u ready e)
    (now : Instant) (target : Watts) :
    (StorageUnit.grant u now target).1 = (e.reach ready target).clamp target := by
  rw [grants.granted]
  cases ready with
  | true => exact e.clamp_eq target
  | false => exact (PowerRange.clamp_zero target).symm

end Units

end HybridStorage
