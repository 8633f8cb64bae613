import HybridStorage.Proofs.Battery
import HybridStorage.Scenario.Basic
import HybridStorage.Storage.Operation

/-!
# Bounds of the stored energy

Whatever is done to a battery, in any order and at any times, its stored energy stays within its
capacity and its state of charge within 0 to 100 percent. An empty battery does not discharge, a
full one does not charge, and the energy only moves the way of the power that was in force.
-/

namespace HybridStorage.Battery

variable {b b' : Battery}

/-- The energy of a full battery in W·ms. -/
def Parameters.fullEnergy (p : Parameters) : Int := max p.capacity.toInt 0 * millisecondsPerHour

theorem fullEnergy_nonneg (p : Parameters) : 0 ≤ p.fullEnergy := by
  unfold Parameters.fullEnergy millisecondsPerHour
  omega

theorem fullEnergy_le (p : Parameters) : p.fullEnergy ≤ 2147483647 * 3600000 := by
  have high := Reading.toInt_le_highest p.capacity
  unfold Reading.highest at high
  unfold Parameters.fullEnergy millisecondsPerHour
  omega

theorem energyCapacity_eq (p : Parameters) : p.energyCapacity = .ok p.fullEnergy := by
  have low := fullEnergy_nonneg p
  have high := fullEnergy_le p
  refine Energy.exact_ok ?_
  unfold Energy.Fits
  change -9223372036854775808 ≤ p.fullEnergy ∧ p.fullEnergy ≤ 9223372036854775807
  omega

/-! ### What an operation changes -/

/-- An operation either leaves energy and powers alone, or it is an application: it integrates and
puts new powers in force, coerced at the state of charge that it has just found. -/
inductive Changes (b b' : Battery) : Prop where
  | kept (parameters : b'.parameters = b.parameters) (energy : b'.energy = b.energy)
      (charge : b'.charge = b.charge) (active : b'.active = b.active)
      (reactive : b'.reactive = b.reactive)
  | applied {now : Instant} {active reactive : Watts} (parameters : b'.parameters = b.parameters)
      (integrated : b.integrate now = .ok (b'.energy, b'.charge))
      (active_eq : b'.active = coerce b'.charge active)
      (reactive_eq : b'.reactive = coerce b'.charge reactive)

theorem changes_grant (b : Battery) (now : Instant) (target : Watts) :
    Changes b (b.grant now target).2 := by
  unfold grant
  split
  · exact .kept rfl rfl rfl rfl rfl
  · exact .kept rfl rfl rfl rfl rfl

theorem changes_applyPower {now : Instant} {active reactive : Watts}
    (h : b.applyPower now active reactive = .ok b') : Changes b b' := by
  obtain ⟨state, integrated, same⟩ := bind_eq_ok_iff.mp h
  cases same
  exact .applied rfl integrated rfl rfl

theorem changes_applyPending {now : Instant} (h : b.applyPending now = .ok b') : Changes b b' := by
  obtain ⟨state, integrated, rfl⟩ := applyPending_eq_ok_iff.mp h
  exact .applied rfl integrated rfl rfl

theorem changes_perform {operation : Operation} {answer : Option Watts}
    (h : b.perform operation = .ok (answer, b')) : Changes b b' := by
  cases operation with
  | startCycle now => cases h; exact .kept rfl rfl rfl rfl rfl
  | grant now target => cases h; exact changes_grant b now target
  | setActive watts => cases h; exact .kept rfl rfl rfl rfl rfl
  | setReactive watts => cases h; exact .kept rfl rfl rfl rfl rfl
  | clearSetPoints => cases h; exact .kept rfl rfl rfl rfl rfl
  | applyPending now =>
    obtain ⟨_, applied, same⟩ := bind_eq_ok_iff.mp h
    cases same
    exact changes_applyPending applied
  | applyPower now active reactive =>
    obtain ⟨_, applied, same⟩ := bind_eq_ok_iff.mp h
    cases same
    exact changes_applyPower applied

theorem Changes.parameters_eq (changes : Changes b b') : b'.parameters = b.parameters := by
  cases changes with
  | kept parameters => exact parameters
  | applied parameters => exact parameters

/-! ### Integration -/

theorem toInt_cut (percent : Nat) :
    (Int32.ofInt (min percent 100)).toInt = min (percent : Int) 100 := by
  have nonneg := Int.natCast_nonneg percent
  apply Reading.toInt_ofInt
  · unfold Reading.lowest
    omega
  · unfold Reading.highest
    omega

theorem toInt_percentage (energy capacity : Energy) :
    0 ≤ (percentage energy capacity).toInt ∧ (percentage energy capacity).toInt ≤ 100 := by
  rw [percentage, toInt_cut]
  omega

/-- The first application and those of a battery without capacity integrate nothing. Any other
takes off what was delivered since the last one, and stops at empty and at full. -/
theorem integrate_cases {now : Instant} {energy : Int} {charge : Percent}
    (h : b.integrate now = .ok (energy, charge)) :
    (energy = b.energy ∧ charge = b.charge) ∨
      ∃ elapsed : Int, 0 ≤ elapsed ∧
        energy = min (max (b.energy - b.active.toInt * elapsed) 0) b.parameters.fullEnergy ∧
        charge = percentage energy b.parameters.fullEnergy := by
  unfold integrate at h
  split at h
  · cases h
    exact .inl ⟨rfl, rfl⟩
  · next last _ =>
    rw [energyCapacity_eq] at h
    obtain ⟨capacity, same, h⟩ := bind_eq_ok_iff.mp h
    cases same
    split at h
    · cases h
      exact .inl ⟨rfl, rfl⟩
    · obtain ⟨delivered, product, h⟩ := bind_eq_ok_iff.mp h
      obtain ⟨left, difference, h⟩ := bind_eq_ok_iff.mp h
      obtain ⟨rfl, -⟩ := Energy.exact_eq_ok_iff.mp product
      obtain ⟨rfl, -⟩ := Energy.exact_eq_ok_iff.mp difference
      cases h
      exact .inr ⟨_, Int.le_max_right _ _, rfl, rfl⟩

/-! ### The invariant -/

structure Bounded (b : Battery) : Prop where
  nonneg : (0 : Int) ≤ b.energy
  le_full : (b.energy : Int) ≤ b.parameters.fullEnergy
  charge_nonneg : 0 ≤ b.charge.toInt
  charge_le : b.charge.toInt ≤ 100
  empty : b.charge = 0 → b.active.toInt ≤ 0 ∧ b.reactive.toInt ≤ 0
  full : b.charge = 100 → 0 ≤ b.active.toInt ∧ 0 ≤ b.reactive.toInt

theorem coerce_empty (watts : Watts) : (coerce 0 watts).toInt ≤ 0 := by
  unfold coerce
  split
  · decide
  · next refused =>
    have notPositive : ¬0 < watts := fun positive => refused (.inl ⟨rfl, positive⟩)
    rw [Int32.lt_iff_toInt_lt, Int32.toInt_zero] at notPositive
    omega

theorem coerce_full (watts : Watts) : 0 ≤ (coerce 100 watts).toInt := by
  unfold coerce
  split
  · decide
  · next refused =>
    have notNegative : ¬watts < 0 := fun negative => refused (.inr ⟨rfl, negative⟩)
    rw [Int32.lt_iff_toInt_lt, Int32.toInt_zero] at notNegative
    omega

theorem Bounded.integrate (bounded : b.Bounded) {now : Instant} {energy : Int}
    {charge : Percent} (h : b.integrate now = .ok (energy, charge)) :
    0 ≤ energy ∧ energy ≤ b.parameters.fullEnergy ∧ 0 ≤ charge.toInt ∧ charge.toInt ≤ 100 := by
  have capacity := fullEnergy_nonneg b.parameters
  rcases integrate_cases h with ⟨rfl, rfl⟩ | ⟨elapsed, -, rfl, rfl⟩
  · exact ⟨bounded.nonneg, bounded.le_full, bounded.charge_nonneg, bounded.charge_le⟩
  · obtain ⟨low, high⟩ := toInt_percentage
      (min (max (b.energy - b.active.toInt * elapsed) 0) b.parameters.fullEnergy)
      b.parameters.fullEnergy
    exact ⟨by omega, by omega, low, high⟩

theorem toInt_startCharge (p : Parameters) :
    0 ≤ p.startCharge.toInt ∧ p.startCharge.toInt ≤ 100 := by
  unfold Parameters.startCharge
  rw [toInt_min, toInt_max, Int32.toInt_zero]
  have hundred : (100 : Int32).toInt = 100 := by decide
  omega

theorem startProduct_bounds (p : Parameters) :
    0 ≤ p.fullEnergy * p.startCharge.toInt ∧
      p.fullEnergy * p.startCharge.toInt ≤ p.fullEnergy * 100 := by
  obtain ⟨low, high⟩ := toInt_startCharge p
  have capacity := fullEnergy_nonneg p
  exact ⟨Int.mul_nonneg capacity low, Int.mul_le_mul_of_nonneg_left high capacity⟩

/-- The energy at the outset is the part of the full energy that the charge says. -/
theorem startEnergy_eq (p : Parameters) :
    p.startEnergy = .ok ((p.fullEnergy * p.startCharge.toInt).tdiv 100) := by
  obtain ⟨low, high⟩ := startProduct_bounds p
  have full := fullEnergy_le p
  have fits : Energy.Fits (p.fullEnergy * p.startCharge.toInt) := by
    unfold Energy.Fits
    omega
  rw [Parameters.startEnergy, energyCapacity_eq]
  exact bind_eq_ok_iff.mpr ⟨_, rfl, bind_eq_ok_iff.mpr ⟨_, Energy.exact_ok fits, rfl⟩⟩

theorem bounded_of_create {p : Parameters} (h : create p = .ok b) : b.Bounded := by
  obtain ⟨energy, started, same⟩ := bind_eq_ok_iff.mp h
  cases same
  cases (startEnergy_eq p).symm.trans started
  have start := toInt_startCharge p
  obtain ⟨low, high⟩ := startProduct_bounds p
  refine ⟨Int.tdiv_nonneg low (by decide), ?_, start.1, start.2, ?_, ?_⟩
  · change (p.fullEnergy * p.startCharge.toInt).tdiv 100 ≤ p.fullEnergy
    rw [Int.tdiv_eq_ediv_of_nonneg low]
    omega
  · exact fun _ => ⟨Int.le_refl 0, Int.le_refl 0⟩
  · exact fun _ => ⟨Int.le_refl 0, Int.le_refl 0⟩

theorem Bounded.step (bounded : b.Bounded) (changes : Changes b b') : b'.Bounded := by
  cases changes with
  | kept parameters energy charge active reactive =>
    obtain ⟨nonneg, le_full, charge_nonneg, charge_le, empty, full⟩ := bounded
    rw [← energy] at nonneg le_full
    rw [← parameters] at le_full
    rw [← charge] at charge_nonneg charge_le empty full
    rw [← active, ← reactive] at empty full
    exact ⟨nonneg, le_full, charge_nonneg, charge_le, empty, full⟩
  | applied parameters integrated active_eq reactive_eq =>
    obtain ⟨nonneg, le_full, charge_nonneg, charge_le⟩ := bounded.integrate integrated
    rw [← parameters] at le_full
    refine ⟨nonneg, le_full, charge_nonneg, charge_le, ?_, ?_⟩
    · intro empty
      rw [active_eq, reactive_eq, empty]
      exact ⟨coerce_empty _, coerce_empty _⟩
    · intro full
      rw [active_eq, reactive_eq, full]
      exact ⟨coerce_full _, coerce_full _⟩

/-- The energy does not grow under a discharging power and does not shrink under a charging one,
also where the integration stops at empty or at full. -/
theorem Bounded.energy_moves (bounded : b.Bounded) (changes : Changes b b') :
    (0 ≤ b.active.toInt → b'.energy ≤ b.energy) ∧
      (b.active.toInt ≤ 0 → b.energy ≤ b'.energy) := by
  obtain ⟨nonneg, le_full, -, -, -, -⟩ := bounded
  cases changes with
  | kept _ energy => exact ⟨fun _ => Int.le_of_eq energy, fun _ => Int.le_of_eq energy.symm⟩
  | applied _ integrated =>
    rcases integrate_cases integrated with ⟨energy, -⟩ | ⟨elapsed, forward, energy, -⟩
    · exact ⟨fun _ => Int.le_of_eq energy, fun _ => Int.le_of_eq energy.symm⟩
    · rw [energy]
      constructor
      · intro discharging
        have delivered : 0 ≤ b.active.toInt * elapsed := Int.mul_nonneg discharging forward
        apply Int.le_trans (Int.min_le_left _ _)
        exact Int.max_le.mpr ⟨Int.sub_le_self _ delivered, nonneg⟩
      · intro charging
        have taken : b.active.toInt * elapsed ≤ 0 :=
          Int.mul_nonpos_of_nonpos_of_nonneg charging forward
        have grown := Int.sub_le_sub_left taken b.energy
        rw [Int.sub_zero] at grown
        exact Int.le_min.mpr ⟨Int.le_trans grown (Int.le_max_left _ _), le_full⟩

theorem performAll_cons_eq_ok_iff {operation : Operation} {rest : List Operation} :
    b.performAll (operation :: rest) = .ok b' ↔
      ∃ answer next, b.perform operation = .ok (answer, next) ∧ next.performAll rest = .ok b' := by
  rw [performAll, bind_eq_ok_iff]
  constructor
  · rintro ⟨⟨answer, next⟩, performed, others⟩
    exact ⟨answer, next, performed, others⟩
  · rintro ⟨answer, next, performed, others⟩
    exact ⟨⟨answer, next⟩, performed, others⟩

/-- What each of the allowed operations keeps holds after a history of them. -/
theorem of_performAll_allowed {P : Battery → Prop} {A : Operation → Prop}
    (step : ∀ {b b' : Battery} {operation : Operation} {answer : Option Watts},
      A operation → P b → b.perform operation = .ok (answer, b') → P b')
    {operations : List Operation} (all : ∀ operation ∈ operations, A operation)
    (h : b.performAll operations = .ok b') (start : P b) : P b' := by
  induction operations generalizing b with
  | nil =>
    cases h
    exact start
  | cons operation rest ih =>
    obtain ⟨_, next, performed, others⟩ := performAll_cons_eq_ok_iff.mp h
    obtain ⟨first, later⟩ := List.forall_mem_cons.mp all
    exact ih later others (step first start performed)

theorem of_performAll_perform {P : Battery → Prop}
    (step : ∀ {b b' : Battery} {operation : Operation} {answer : Option Watts},
      P b → b.perform operation = .ok (answer, b') → P b')
    {operations : List Operation} (h : b.performAll operations = .ok b') (start : P b) : P b' :=
  of_performAll_allowed (A := fun _ => True) (fun _ => step) (fun _ _ => trivial) h start

theorem of_performAll {P : Battery → Prop} (step : ∀ {b b' : Battery}, P b → Changes b b' → P b')
    {operations : List Operation} (h : b.performAll operations = .ok b') (start : P b) : P b' :=
  of_performAll_perform (fun holds performed => step holds (changes_perform performed)) h start

theorem energy_and_charge_within_bounds {p : Parameters} {operations : List Operation}
    (created : create p = .ok b) (performed : b.performAll operations = .ok b') :
    (0 ≤ b'.energy ∧ b'.energy ≤ max p.capacity.toInt 0 * 3600000) ∧
      (0 ≤ b'.charge.toInt ∧ b'.charge.toInt ≤ 100) ∧
      (b'.charge = 0 → b'.active.toInt ≤ 0 ∧ b'.reactive.toInt ≤ 0) ∧
      (b'.charge = 100 → 0 ≤ b'.active.toInt ∧ 0 ≤ b'.reactive.toInt) ∧
      ∀ operation answer next, b'.perform operation = .ok (answer, next) →
        (0 ≤ b'.active.toInt → next.energy ≤ b'.energy) ∧
          (b'.active.toInt ≤ 0 → b'.energy ≤ next.energy) := by
  have bounded := of_performAll Bounded.step performed (bounded_of_create created)
  have parameters : b'.parameters = p :=
    of_performAll (fun same changes => changes.parameters_eq.trans same) performed
      (parameters_of_create created)
  refine ⟨⟨bounded.nonneg, ?_⟩, ⟨bounded.charge_nonneg, bounded.charge_le⟩, bounded.empty,
    bounded.full, ?_⟩
  · rw [← parameters]
    exact bounded.le_full
  · intro operation answer next next_performed
    exact bounded.energy_moves (changes_perform next_performed)

/-- An hour of the day on which scenarios start. -/
def hour (n : Nat) (h : n < 24 := by decide) : Instant :=
  { SimulationSpec.defaultStart with
    second := 3600 * n
    second_lt := by omega
    leap := fun long => absurd long (by decide) }

/-- A battery is drained for two hours, after a clock that went back by one. -/
def drain : List Operation :=
  [.startCycle (hour 9), .grant (hour 9) 50000, .setActive 50000, .setReactive 300,
    .applyPending (hour 10), .applyPower (hour 9) 50000 300, .applyPower (hour 11) 50000 300]

theorem energy_and_charge_within_bounds_drained : ∃ b b',
    create UnitSpec.default.parameters = .ok b ∧ b.performAll drain = .ok b' ∧
      0 < b.energy ∧ b'.energy = 0 ∧ b'.charge = 0 ∧
      b'.active.toInt ≤ 0 ∧ b'.reactive.toInt ≤ 0 := by
  have trace : (do
      let b ← (create UnitSpec.default.parameters).toOption
      let b' ← (b.performAll drain).toOption
      some (decide (0 < b.energy ∧ b'.energy = 0 ∧ b'.charge = 0))) = some true := by
    decide +kernel
  simp only [Option.bind_eq_bind, Option.bind_eq_some_iff] at trace
  obtain ⟨b, created, b', drained, facts⟩ := trace
  obtain ⟨stored, left, charge⟩ := of_decide_eq_true (Option.some.inj facts)
  obtain ⟨-, -, empty, -⟩ :=
    energy_and_charge_within_bounds (ok_of_toOption created) (ok_of_toOption drained)
  exact ⟨b, b', ok_of_toOption created, ok_of_toOption drained, stored, left, charge,
    empty charge⟩

end HybridStorage.Battery
