import HybridStorage.Proofs.Envelope

/-!
# Reach of a ramp

The envelope of a ready unit within its limits holds exactly the powers that one ramp leads to, on
either side of zero, or zero alone where none of them lies on that side. A faster ramp never narrows
a range, and a higher target never gets less power.
-/

namespace HybridStorage

namespace PowerRange

/-- The range holds exactly the powers of the set, and zero alone if the set is empty. -/
def Fills (r : PowerRange) (set : Watts → Prop) : Prop :=
  ∀ watts, r.contains watts = true ↔ set watts ∨ ((∀ other, ¬set other) ∧ watts = 0)

theorem Fills.of_iff {r : PowerRange} {set : Watts → Prop}
    (ordered : r.lower.toInt ≤ r.upper.toInt)
    (same : ∀ watts, r.contains watts = true ↔ set watts) : r.Fills set := by
  -- An ordered range has a member, so the set is not empty.
  have member : set r.lower := (same r.lower).mp (contains_iff.mpr ⟨Int.le_refl _, ordered⟩)
  intro watts
  rw [same watts]
  constructor
  · exact .inl
  · rintro (inside | ⟨empty, -⟩)
    · exact inside
    · exact absurd member (empty r.lower)

theorem Fills.of_empty {r : PowerRange} {set : Watts → Prop} (lower : r.lower.toInt = 0)
    (upper : r.upper.toInt = 0) (empty : ∀ watts, ¬set watts) : r.Fills set := by
  intro watts
  have zero : r.contains watts = true ↔ watts = 0 := by
    rw [contains_iff, lower, upper, ← Int32.toInt_inj, Int32.toInt_zero]
    omega
  rw [zero]
  constructor
  · intro same
    exact .inr ⟨empty, same⟩
  · rintro (inside | ⟨-, same⟩)
    · exact absurd inside (empty watts)
    · exact same

theorem clamp_mono {r : PowerRange} {low high : Watts} (le : low.toInt ≤ high.toInt) :
    (r.clamp low).toInt ≤ (r.clamp high).toInt := by
  rw [toInt_clamp, toInt_clamp]
  omega

/-- Neither bound of the range lies beyond the other range. -/
structure Within (r wide : PowerRange) : Prop where
  lower : wide.lower.toInt ≤ r.lower.toInt
  upper : r.upper.toInt ≤ wide.upper.toInt

theorem Within.refl (r : PowerRange) : r.Within r := ⟨Int.le_refl _, Int.le_refl _⟩

end PowerRange

namespace PowerEnvelope

/-! ### Exact ranges -/

/-- The power is at most one ramp away from the present one; a negative ramp rate counts as zero. -/
def Near (current ramp watts : Watts) : Prop :=
  (watts.toInt - current.toInt).natAbs ≤ max ramp.toInt 0

def ChargeReach (current ramp : Watts) (limits : PowerLimits) (watts : Watts) : Prop :=
  limits.charge.toInt ≤ watts.toInt ∧ watts.toInt ≤ 0 ∧ Near current ramp watts

def DischargeReach (current ramp : Watts) (limits : PowerLimits) (watts : Watts) : Prop :=
  0 ≤ watts.toInt ∧ watts.toInt ≤ limits.discharge.toInt ∧ Near current ramp watts

theorem charge_fills {current : Watts} (ramp : Watts) {limits : PowerLimits}
    (above : limits.charge.toInt ≤ current.toInt) :
    (ramped current ramp limits).charge.Fills (ChargeReach current ramp limits) := by
  have ordered := (ordered_ramped current ramp limits).charge
  have nonpos := limits.charge_nonpos
  have lowest := Reading.lowest_le_toInt limits.charge
  obtain ⟨lower, upper, -, -⟩ := toInt_ramped current ramp limits
  rw [(toInt_ramp current ramp).1] at lower
  rw [(toInt_ramp current ramp).2] at upper
  have step : 0 ≤ max ramp.toInt 0 := by omega
  unfold ChargeReach Near
  generalize max ramp.toInt 0 = r at *
  by_cases near : current.toInt ≤ r
  · have low : (ramped current ramp limits).charge.lower.toInt =
        max (current.toInt - r) limits.charge.toInt := by omega
    have high : (ramped current ramp limits).charge.upper.toInt = min (current.toInt + r) 0 := by
      unfold Reading.highest at upper
      omega
    clear lower upper
    refine .of_iff ordered fun watts => ?_
    rw [PowerRange.contains_iff]
    omega
  · -- The unit discharges with more than it can take back in one cycle.
    have closed : (ramped current ramp limits).charge.lower.toInt = 0 := by omega
    refine .of_empty closed (by omega) fun watts reach => ?_
    obtain ⟨-, charging, close⟩ := reach
    omega

theorem discharge_fills {current : Watts} (ramp : Watts) {limits : PowerLimits}
    (below : current.toInt ≤ limits.discharge.toInt) :
    (ramped current ramp limits).discharge.Fills (DischargeReach current ramp limits) := by
  have ordered := (ordered_ramped current ramp limits).discharge
  have nonneg := limits.discharge_nonneg
  have highest := Reading.toInt_le_highest limits.discharge
  obtain ⟨-, -, lower, upper⟩ := toInt_ramped current ramp limits
  rw [(toInt_ramp current ramp).1] at lower
  rw [(toInt_ramp current ramp).2] at upper
  have step : 0 ≤ max ramp.toInt 0 := by omega
  unfold DischargeReach Near
  generalize max ramp.toInt 0 = r at *
  by_cases near : -r ≤ current.toInt
  · have low : (ramped current ramp limits).discharge.lower.toInt = max (current.toInt - r) 0 := by
      unfold Reading.lowest at lower
      omega
    have high : (ramped current ramp limits).discharge.upper.toInt =
        min (current.toInt + r) limits.discharge.toInt := by omega
    clear lower upper
    refine .of_iff ordered fun watts => ?_
    rw [PowerRange.contains_iff]
    omega
  · -- The unit charges with more than it can give up in one cycle.
    have closed : (ramped current ramp limits).discharge.upper.toInt = 0 := by omega
    refine .of_empty (by omega) closed fun watts reach => ?_
    obtain ⟨discharging, -, close⟩ := reach
    omega

/-- Within the limits both ranges hold exactly what one ramp leads to. Beyond them they are still
ordered, on their own sides of zero and inside the limits. -/
theorem ramped_fills_reach (current ramp : Watts) (limits : PowerLimits) :
    (limits.charge.toInt ≤ current.toInt ∧ current.toInt ≤ limits.discharge.toInt →
      (ramped current ramp limits).charge.Fills (ChargeReach current ramp limits) ∧
        (ramped current ramp limits).discharge.Fills (DischargeReach current ramp limits)) ∧
      limits.charge.toInt ≤ (ramped current ramp limits).charge.lower.toInt ∧
      (ramped current ramp limits).charge.lower.toInt ≤
        (ramped current ramp limits).charge.upper.toInt ∧
      (ramped current ramp limits).charge.upper.toInt ≤ 0 ∧
      0 ≤ (ramped current ramp limits).discharge.lower.toInt ∧
      (ramped current ramp limits).discharge.lower.toInt ≤
        (ramped current ramp limits).discharge.upper.toInt ∧
      (ramped current ramp limits).discharge.upper.toInt ≤ limits.discharge.toInt := by
  have ordered := ordered_ramped current ramp limits
  refine ⟨?_, charge_le_ramped current ramp limits, ordered.charge, ordered.charge_nonpos,
    ordered.discharge_nonneg, ordered.discharge, ramped_le_discharge current ramp limits⟩
  rintro ⟨above, below⟩
  exact ⟨charge_fills ramp above, discharge_fills ramp below⟩

/-- From nearly the greatest reading, the greatest ramp reaches to both sides of zero. -/
theorem ramped_fills_reach_saturated :
    let limits := PowerLimits.ofMagnitudes 20000 (-2147483648)
    (limits.charge.toInt ≤ (2147483000 : Watts).toInt ∧
        (2147483000 : Watts).toInt ≤ limits.discharge.toInt) ∧
      ramped 2147483000 2147483647 limits = ⟨⟨-647, 0⟩, ⟨0, 2147483647⟩⟩ ∧
      PowerRange.Fills ⟨-647, 0⟩ (ChargeReach 2147483000 2147483647 limits) ∧
      PowerRange.Fills ⟨0, 2147483647⟩ (DischargeReach 2147483000 2147483647 limits) := by
  intro limits
  have within : limits.charge.toInt ≤ (2147483000 : Watts).toInt ∧
      (2147483000 : Watts).toInt ≤ limits.discharge.toInt := by decide
  have ranges : ramped 2147483000 2147483647 limits = ⟨⟨-647, 0⟩, ⟨0, 2147483647⟩⟩ := by decide
  have fills := (ramped_fills_reach 2147483000 2147483647 limits).1 within
  rw [ranges] at fills
  exact ⟨within, ranges, fills⟩

/-! ### Faster ramps and higher targets -/

theorem Ordered.clamp_mono {e : PowerEnvelope} (ordered : e.Ordered) {low high : Watts}
    (le : low.toInt ≤ high.toInt) : (e.clamp low).toInt ≤ (e.clamp high).toInt := by
  by_cases charging : low.toInt < 0
  · by_cases discharging : 0 ≤ high.toInt
    · -- The targets lie on either side of zero, and so do their ranges.
      have below := (ordered.clamp_bounds low).2
      have above := (ordered.clamp_bounds high).1
      rw [side_of_neg e charging] at below
      rw [side_of_nonneg e discharging] at above
      have nonpos := ordered.charge_nonpos
      have nonneg := ordered.discharge_nonneg
      omega
    · rw [clamp_eq, clamp_eq, side_of_neg e charging, side_of_neg e (by omega)]
      exact PowerRange.clamp_mono le
  · rw [clamp_eq, clamp_eq, side_of_nonneg e (by omega), side_of_nonneg e (by omega)]
    exact PowerRange.clamp_mono le

section Faster

variable {current slow fast : Watts} {limits : PowerLimits}

/-- A faster ramp leads no less far in either direction, and neither stops short of the present
power. -/
theorem ramp_mono (current : Watts) (le : slow.toInt ≤ fast.toInt) :
    (Reading.satSub current (max fast 0)).toInt ≤ (Reading.satSub current (max slow 0)).toInt ∧
      (Reading.satSub current (max slow 0)).toInt ≤ current.toInt ∧
      current.toInt ≤ (Reading.satAdd current (max slow 0)).toInt ∧
      (Reading.satAdd current (max slow 0)).toInt ≤
        (Reading.satAdd current (max fast 0)).toInt := by
  have low := Reading.lowest_le_toInt current
  have high := Reading.toInt_le_highest current
  obtain ⟨slowDown, slowUp⟩ := toInt_ramp current slow
  obtain ⟨fastDown, fastUp⟩ := toInt_ramp current fast
  omega

theorem charge_within_faster (le : slow.toInt ≤ fast.toInt) :
    (ramped current slow limits).charge.Within (ramped current fast limits).charge := by
  have nonpos := limits.charge_nonpos
  obtain ⟨down, lower, upper, up⟩ := ramp_mono current le
  obtain ⟨slowLower, slowUpper, -, -⟩ := toInt_ramped current slow limits
  obtain ⟨fastLower, fastUpper, -, -⟩ := toInt_ramped current fast limits
  constructor <;> omega

theorem discharge_within_faster (le : slow.toInt ≤ fast.toInt) :
    (ramped current slow limits).discharge.Within (ramped current fast limits).discharge := by
  have nonneg := limits.discharge_nonneg
  obtain ⟨down, lower, upper, up⟩ := ramp_mono current le
  obtain ⟨-, -, slowLower, slowUpper⟩ := toInt_ramped current slow limits
  obtain ⟨-, -, fastLower, fastUpper⟩ := toInt_ramped current fast limits
  constructor <;> omega

end Faster

/-- A faster ramp narrows neither range, whatever the unit delivers; and the power that an envelope
admits never falls when the target rises. -/
theorem faster_ramp_widens {slow fast : Watts} (le : slow.toInt ≤ fast.toInt) (ready : Bool)
    (current : Watts) (limits : PowerLimits) :
    (compute ready current slow limits).charge.Within (compute ready current fast limits).charge ∧
      (compute ready current slow limits).discharge.Within
        (compute ready current fast limits).discharge ∧
      ∀ ramp low high : Watts, low.toInt ≤ high.toInt →
        ((compute ready current ramp limits).clamp low).toInt ≤
          ((compute ready current ramp limits).clamp high).toInt := by
  refine ⟨?_, ?_, fun ramp low high => (ordered_compute ready current ramp limits).clamp_mono⟩
  · cases ready with
    | true => exact charge_within_faster le
    | false => exact .refl PowerRange.zero
  · cases ready with
    | true => exact discharge_within_faster le
    | false => exact .refl PowerRange.zero

/-- A unit beyond its discharge limit: the faster ramp opens the charge range, and a target below
zero gets less power than one above. -/
theorem faster_ramp_widens_beyond :
    (1000 : Watts).toInt ≤ (400000 : Watts).toInt ∧
      compute true 150000 1000 (.ofMagnitudes 300000 100000) = ⟨⟨0, 0⟩, ⟨100000, 100000⟩⟩ ∧
      compute true 150000 400000 (.ofMagnitudes 300000 100000) = ⟨⟨-250000, 0⟩, ⟨0, 100000⟩⟩ ∧
      PowerRange.Within ⟨0, 0⟩ ⟨-250000, 0⟩ ∧ PowerRange.Within ⟨100000, 100000⟩ ⟨0, 100000⟩ ∧
      (clamp ⟨⟨-250000, 0⟩, ⟨0, 100000⟩⟩ (-1)).toInt ≤
        (clamp ⟨⟨-250000, 0⟩, ⟨0, 100000⟩⟩ 7).toInt := by
  have faster : (1000 : Watts).toInt ≤ (400000 : Watts).toInt := by decide
  have slow : compute true 150000 1000 (.ofMagnitudes 300000 100000) =
      ⟨⟨0, 0⟩, ⟨100000, 100000⟩⟩ := by decide
  have fast : compute true 150000 400000 (.ofMagnitudes 300000 100000) =
      ⟨⟨-250000, 0⟩, ⟨0, 100000⟩⟩ := by decide
  obtain ⟨charge, discharge, rising⟩ :=
    faster_ramp_widens faster true 150000 (.ofMagnitudes 300000 100000)
  have powers := rising 400000 (-1) 7 (by decide)
  rw [slow, fast] at charge discharge
  rw [fast] at powers
  exact ⟨faster, slow, fast, charge, discharge, powers⟩

end PowerEnvelope

end HybridStorage
