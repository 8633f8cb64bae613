import HybridStorage.Scenario.Violation

/-!
# What a valid scenario keeps to

A scenario without violations keeps to every single rule.
-/

namespace HybridStorage

theorem Violation.when_eq_nil_iff {broken : Prop} [Decidable broken] {v : Violation} :
    v.when broken = [] ↔ ¬broken := by
  unfold «when»
  split
  · next h => simp [h]
  · next h => simp [h]

theorem Violation.mem_when {broken : Prop} [Decidable broken] {v w : Violation} :
    v ∈ w.when broken ↔ broken ∧ v = w := by
  unfold «when»
  split
  · next h => simp [h]
  · next h => simp [h]

theorem mem_unitViolations {units : List UnitSpec} {position : Nat} {earlier : List String}
    {v : Violation} (member : v ∈ unitViolations position earlier units) :
    ∃ u position earlier, v ∈ UnitSpec.violations u position earlier := by
  induction units generalizing position earlier with
  | nil => cases member
  | cons u rest ih =>
    rcases List.mem_append.mp member with own | later
    · exact ⟨u, position, earlier, own⟩
    · exact ih later

theorem mem_violations_unit {units : List UnitSpec} {position : Nat} {earlier : List String}
    (valid : unitViolations position earlier units = []) {u : UnitSpec} (member : u ∈ units) :
    ∃ position earlier, u.violations position earlier = [] := by
  induction units generalizing position earlier with
  | nil => cases member
  | cons first rest ih =>
    obtain ⟨head, tail⟩ := List.append_eq_nil_iff.mp valid
    cases member with
    | head => exact ⟨position, earlier, head⟩
    | tail _ member => exact ih tail member

theorem nodup_of_unitViolations {units : List UnitSpec} {position : Nat} {earlier : List String}
    (valid : unitViolations position earlier units = []) :
    (units.map UnitSpec.id).Nodup ∧ ∀ u ∈ units, u.id ∉ earlier := by
  induction units generalizing position earlier with
  | nil => exact ⟨List.nodup_nil, fun u member => nomatch member⟩
  | cons first rest ih =>
    obtain ⟨head, tail⟩ := List.append_eq_nil_iff.mp valid
    obtain ⟨nodup, fresh⟩ := ih tail
    simp only [UnitSpec.violations, List.append_eq_nil_iff, Violation.when_eq_nil_iff] at head
    obtain ⟨⟨⟨⟨⟨new, -⟩, -⟩, -⟩, -⟩, -⟩ := head
    refine ⟨List.nodup_cons.mpr ⟨?_, nodup⟩, ?_⟩
    · intro repeated
      obtain ⟨u, member, same⟩ := List.mem_map.mp repeated
      exact fresh u member (same ▸ List.mem_cons_self)
    · intro u member
      rcases List.mem_cons.mp member with rfl | later
      · exact new
      · exact fun old => fresh u later (List.mem_cons_of_mem _ old)

theorem Scenario.unitViolations_eq_nil {s : Scenario} (valid : s.violations = []) :
    unitViolations 0 [] s.units = [] := by
  obtain ⟨others, -⟩ := List.append_eq_nil_iff.mp valid
  exact (List.append_eq_nil_iff.mp others).2

structure UnitSpec.Sound (u : UnitSpec) : Prop where
  capacity : 0 < u.capacity.toInt
  maxCharge : 0 ≤ u.maxCharge.toInt
  maxDischarge : 0 ≤ u.maxDischarge.toInt
  ramp : 0 ≤ u.ramp.toInt

theorem UnitSpec.sound_of_violations {u : UnitSpec} {position : Nat} {earlier : List String}
    (kept : u.violations position earlier = []) : u.Sound := by
  simp only [violations, List.append_eq_nil_iff, Violation.when_eq_nil_iff, Int32.le_iff_toInt_le,
    Int32.lt_iff_toInt_lt, Int32.toInt_zero] at kept
  obtain ⟨⟨⟨⟨⟨-, capacity⟩, -⟩, maxCharge⟩, maxDischarge⟩, ramp⟩ := kept
  exact ⟨by omega, by omega, by omega, by omega⟩

/-- The rules of a valid scenario that its simulation relies on. -/
structure Scenario.Sound (s : Scenario) : Prop where
  cycleTime : s.simulation.cycleSeconds ≠ 0
  cycles : s.simulation.cycles ≠ 0
  different : s.controller.mainUnit ≠ s.controller.supportUnit
  main : s.controller.mainUnit ∈ s.units.map UnitSpec.id
  support : s.controller.supportUnit ∈ s.units.map UnitSpec.id
  meter : s.controller.meter = s.meter
  gridPower : 0 ≤ s.controller.maxGridPower.toInt
  ids : (s.units.map UnitSpec.id).Nodup
  units : ∀ u ∈ s.units, u.Sound
  daylight : ProductionProfile.isDaylight s.production.sunrise s.production.sunset = true

/-- Both hours are numbers, so of the two orders between them the rule leaves one. -/
theorem ProductionSpec.daylight_of_violations {p : ProductionSpec} {load : LoadSpec}
    (kept : p.violations load = []) :
    ProductionProfile.isDaylight p.sunrise p.sunset = true := by
  simp only [violations, List.append_eq_nil_iff, Violation.when_eq_nil_iff, Bool.not_eq_true',
    Bool.not_eq_false] at kept
  obtain ⟨⟨⟨hours, order⟩, -⟩, -⟩ := kept
  rw [ProductionProfile.isDaylight, hours, Bool.true_and]
  obtain ⟨sunrise, sunset⟩ := Bool.and_eq_true_iff.mp hours
  obtain ⟨sunriseLow, -⟩ := Bool.and_eq_true_iff.mp sunrise
  obtain ⟨sunsetLow, -⟩ := Bool.and_eq_true_iff.mp sunset
  revert sunriseLow sunsetLow order
  unfold Binary64.le Binary64.lt Binary64.compareBy
  cases p.sunrise.rank? with
  | none => cases (Binary64.ofNat 0).rank? <;> simp
  | some m =>
    cases p.sunset.rank? with
    | none => cases (Binary64.ofNat 0).rank? <;> simp
    | some n =>
      intro notBefore _ _
      simp only [decide_eq_true_eq, Int.not_le] at notBefore
      exact decide_eq_true notBefore

theorem Scenario.sound {s : Scenario} (valid : s.violations = []) : s.Sound := by
  have unitsValid := unitViolations_eq_nil valid
  simp only [violations, SimulationSpec.violations, Settings.violations, List.append_eq_nil_iff,
    Violation.when_eq_nil_iff] at valid
  obtain ⟨⟨⟨⟨cycleTime, cycles⟩, ⟨⟨⟨⟨⟨⟨different, main⟩, support⟩, meter⟩, -⟩, gridPower⟩, -⟩⟩, -⟩,
    production⟩ := valid
  rw [Int32.lt_iff_toInt_lt, Int32.toInt_zero] at gridPower
  exact {
    cycleTime
    cycles
    different
    main := Decidable.not_not.mp main
    support := Decidable.not_not.mp support
    meter := Decidable.not_not.mp meter
    gridPower := by omega
    ids := (nodup_of_unitViolations unitsValid).1
    units := by
      intro u member
      obtain ⟨_, _, kept⟩ := mem_violations_unit unitsValid member
      exact UnitSpec.sound_of_violations kept
    daylight := ProductionSpec.daylight_of_violations production }

theorem Scenario.ramp_nonneg {s : Scenario} (valid : s.violations = []) {u : UnitSpec}
    (member : u ∈ s.units) : 0 ≤ u.ramp.toInt := ((sound valid).units u member).ramp

end HybridStorage
