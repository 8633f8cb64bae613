import HybridStorage.Proofs.Requests
import HybridStorage.Proofs.Rounding

/-!
# The estimate of the stored energy

A controller reckons with the energy that capacity and state of charge tell. The state of charge is
a whole percentage, found anew from the stored energy at each application, so the estimate is off by
at most half a percent of the capacity and what whole watt hours leave out. Nothing adds up.
-/

namespace HybridStorage

namespace Binary64

/-- Rounding moves a quotient that 53 bits above a unit can hold by no more than this unit. -/
theorem nearest_error {n d : ℕ} (someD : d ≠ 0) {e : ℤ} (least : -1074 ≤ e)
    (small : (n : ℚ) / d < 2 ^ (53 + e)) : |(nearest n d).toRat - (n : ℚ) / d| ≤ 2 ^ e := by
  have unit := two_zpow_pos e
  have nonneg : (0 : ℚ) ≤ (n : ℚ) / d := div_nonneg (Nat.cast_nonneg _) (Nat.cast_nonneg _)
  obtain ⟨k, multiple⟩ : ∃ k, k = ⌊(n : ℚ) / d / 2 ^ e⌋ := ⟨_, rfl⟩
  have low : (k : ℚ) * 2 ^ e ≤ (n : ℚ) / d := by
    rw [← le_div_iff₀ unit, multiple]
    exact Int.floor_le _
  have high : (n : ℚ) / d < (k + 1) * 2 ^ e := by
    rw [← div_lt_iff₀ unit, multiple]
    exact Int.lt_floor_add_one _
  have bits : |k| < 2 ^ 53 := by
    have k_nonneg : 0 ≤ k := by
      rw [multiple]
      exact Int.floor_nonneg.mpr (div_nonneg nonneg unit.le)
    rw [abs_of_nonneg k_nonneg]
    have k_lt : (k : ℚ) < 2 ^ 53 := by
      rw [zpow_add₀ (by norm_num)] at small
      exact lt_of_mul_lt_mul_right (low.trans_lt small) unit.le
    exact_mod_cast k_lt
  refine (nearest_distance someD bits least).1.trans ?_
  rw [abs_le]
  constructor <;> linarith

/-- Rounding does not pass a natural number that a double can hold. -/
theorem nearest_le {n d m : ℕ} (someD : d ≠ 0) (bits : m < 2 ^ 53) (le : (n : ℚ) / d ≤ m) :
    (nearest n d).toRat ≤ m := by
  have short : |(m : ℤ)| < 2 ^ 53 := by
    rw [Nat.abs_cast]
    exact_mod_cast bits
  have near := (nearest_distance (n := n) someD short (show -1074 ≤ 0 by decide)).1
  have apart : (0 : ℚ) ≤ m - n / d := by linarith
  rw [zpow_zero, mul_one, Int.cast_natCast, abs_of_nonneg apart] at near
  linarith [le_abs_self ((nearest n d).toRat - (n : ℚ) / d)]

theorem Magnitude.round_error (x : Magnitude) : |(x.round : ℚ) - x.toRat| ≤ 1 / 2 := by
  have someD : 0 < x.denominator := Nat.pos_of_ne_zero x.denominator_ne_zero
  have positive : (0 : ℚ) < x.denominator := by exact_mod_cast someD
  have numerator : (x.numerator : ℚ) = x.toRat * x.denominator :=
    (div_mul_cancel₀ _ positive.ne').symm
  have below : (x.round * (2 * x.denominator) : ℚ) ≤ 2 * x.numerator + x.denominator := by
    exact_mod_cast Nat.div_mul_le_self _ _
  have above : (2 * x.numerator + x.denominator : ℚ) <
      x.round * (2 * x.denominator) + 2 * x.denominator := by
    exact_mod_cast Nat.lt_div_mul_add (show 0 < 2 * x.denominator by omega)
  rw [numerator] at below above
  have low : 2 * (x.round : ℚ) ≤ 2 * x.toRat + 1 :=
    le_of_mul_le_mul_right (by linarith) positive
  have high : 2 * x.toRat + 1 < 2 * (x.round : ℚ) + 2 :=
    lt_of_mul_lt_mul_right (by linarith) positive.le
  rw [abs_le]
  constructor <;> linarith

/-- Both roundings of a percentage together are off by less than `2 ^ (-44)`, so that the rounded
one is hardly farther from the exact one than the nearest whole number. -/
theorem percent_error {n d : ℕ} (someD : d ≠ 0) (le : n ≤ d) :
    let quotient := nearest n d
    let percent := nearest (quotient.numerator * 100) quotient.denominator
    percent.round ≤ 100 ∧ |(percent.round : ℚ) - (n : ℚ) / d * 100| ≤ 1 / 2 + 2 ^ (-44 : ℤ) := by
  intro quotient percent
  have part : (n : ℚ) / d ≤ (1 : ℕ) := by
    rw [Nat.cast_one, div_le_one (by exact_mod_cast Nat.pos_of_ne_zero someD)]
    exact_mod_cast le
  have quotientError : |quotient.toRat - (n : ℚ) / d| ≤ 2 ^ (-52 : ℤ) :=
    nearest_error someD (by decide) (part.trans_lt (by norm_num))
  have quotientLe : quotient.toRat ≤ (1 : ℕ) := nearest_le someD (by decide) part
  have someD' : quotient.denominator ≠ 0 := quotient.denominator_ne_zero
  have product : ((quotient.numerator * 100 : ℕ) : ℚ) / quotient.denominator =
      quotient.toRat * 100 := by
    rw [Nat.cast_mul, mul_div_right_comm, Nat.cast_ofNat]
    rfl
  have productLe : ((quotient.numerator * 100 : ℕ) : ℚ) / quotient.denominator ≤ (100 : ℕ) := by
    rw [product]
    push_cast at quotientLe ⊢
    linarith
  have percentError : |percent.toRat - quotient.toRat * 100| ≤ 2 ^ (-46 : ℤ) := by
    rw [← product]
    exact nearest_error someD' (by decide) (productLe.trans_lt (by norm_num))
  have percentLe : percent.toRat ≤ (100 : ℕ) := nearest_le someD' (by decide) productLe
  have rounded := percent.round_error
  norm_num at quotientError percentError percentLe ⊢
  rw [abs_le] at quotientError percentError rounded ⊢
  refine ⟨?_, by linarith, by linarith⟩
  have below : (percent.round : ℚ) < 101 := by linarith
  have below' : percent.round < 101 := by exact_mod_cast below
  omega

end Binary64

namespace Battery

variable {b b' : Battery}

theorem percentage_error {energy full : ℤ} (nonneg : 0 ≤ energy) (le : energy ≤ full)
    (someFull : 0 < full) :
    |((percentage energy full).toInt : ℚ) - energy / full * 100| ≤ 1 / 2 + 2 ^ (-44 : ℤ) := by
  obtain ⟨n, rfl⟩ := Int.eq_ofNat_of_zero_le nonneg
  obtain ⟨d, rfl⟩ := Int.eq_ofNat_of_zero_le someFull.le
  obtain ⟨cut, error⟩ := Binary64.percent_error (n := n) (d := d) (by omega) (by omega)
  rw [percentage, toInt_cut, Int.toNat_natCast, Int.toNat_natCast,
    min_eq_left (by exact_mod_cast cut)]
  simp only [Int.cast_natCast]
  exact error

/-- The estimate is near the stored energy, both in whole watt hours. -/
structure Tracked (b : Battery) : Prop where
  someCapacity : 0 < b.parameters.capacity.toInt
  near : 200 * |b.estimate - b.energyInWattHours| ≤ b.parameters.capacity.toInt + 200

theorem fullEnergy_eq {p : Parameters} (someCapacity : 0 < p.capacity.toInt) :
    p.fullEnergy = p.capacity.toInt * 3600000 := by
  unfold Parameters.fullEnergy millisecondsPerHour
  omega

/-- Cutting off what exceeds whole units makes two numbers differ by less than one unit more. -/
theorem abs_tdiv_sub_lt {x y m n : ℤ} (hx : 0 ≤ x) (hy : 0 ≤ y) (hm : 0 < m) (hn : 0 < n) :
    (|x.tdiv m - y.tdiv n| : ℚ) < |(x : ℚ) / m - y / n| + 1 := by
  have m_pos : (0 : ℚ) < m := by exact_mod_cast hm
  have n_pos : (0 : ℚ) < n := by exact_mod_cast hn
  rw [Int.tdiv_eq_ediv_of_nonneg hx, Int.tdiv_eq_ediv_of_nonneg hy]
  have x_low : ((x / m : ℤ) : ℚ) ≤ x / m := by
    rw [le_div_iff₀ m_pos]
    exact_mod_cast Int.ediv_mul_le x hm.ne'
  have x_high : (x : ℚ) / m < (x / m : ℤ) + 1 := by
    rw [div_lt_iff₀ m_pos]
    exact_mod_cast Int.lt_ediv_add_one_mul_self x hm
  have y_low : ((y / n : ℤ) : ℚ) ≤ y / n := by
    rw [le_div_iff₀ n_pos]
    exact_mod_cast Int.ediv_mul_le y hn.ne'
  have y_high : (y : ℚ) / n < (y / n : ℤ) + 1 := by
    rw [div_lt_iff₀ n_pos]
    exact_mod_cast Int.lt_ediv_add_one_mul_self y hn
  rw [abs_lt]
  constructor
  · linarith [neg_abs_le ((x : ℚ) / m - y / n)]
  · linarith [le_abs_self ((x : ℚ) / m - y / n)]

/-- For a capacity of `c` Wh, a charge of `s` percent and an energy of `e` W·ms. -/
theorem near_of_error {c s e : ℤ} (someCapacity : 0 < c) (largest : c ≤ 2147483647) (hs : 0 ≤ s)
    (he : 0 ≤ e) (error : |(s : ℚ) - e / (c * 3600000 : ℤ) * 100| ≤ 1 / 2 + 2 ^ (-44 : ℤ)) :
    200 * |(c * s).tdiv 100 - e.tdiv 3600000| ≤ c + 200 := by
  have c_pos : (0 : ℚ) < c := by exact_mod_cast someCapacity
  have c_le : (c : ℚ) ≤ 2147483647 := by exact_mod_cast largest
  have cut := abs_tdiv_sub_lt (Int.mul_nonneg someCapacity.le hs) he
    (show (0 : ℤ) < 100 by decide) (show (0 : ℤ) < 3600000 by decide)
  have scaled : ((c * s : ℤ) : ℚ) / (100 : ℤ) - e / (3600000 : ℤ) =
      c / 100 * (s - e / (c * 3600000 : ℤ) * 100) := by
    push_cast
    field_simp
  rw [scaled, abs_mul, abs_of_pos (div_pos c_pos (by norm_num))] at cut
  have bound : (c : ℚ) / 100 * |(s : ℚ) - e / (c * 3600000 : ℤ) * 100| ≤
      c / 100 * (1 / 2 + 2 ^ (-44 : ℤ)) :=
    mul_le_mul_of_nonneg_left error (div_pos c_pos (by norm_num)).le
  have power : (2 : ℚ) ^ (-44 : ℤ) = 1 / 17592186044416 := by norm_num
  rw [power] at bound
  have less : 200 * |((c * s).tdiv 100 : ℚ) - (e.tdiv 3600000 : ℚ)| < c + 201 := by linarith
  have less' : 200 * |(c * s).tdiv 100 - e.tdiv 3600000| < c + 201 := by exact_mod_cast less
  omega

theorem Tracked.of_percentage (someCapacity : 0 < b.parameters.capacity.toInt)
    (nonneg : (0 : ℤ) ≤ b.energy) (le : (b.energy : ℤ) ≤ b.parameters.fullEnergy)
    (charge : b.charge = percentage b.energy b.parameters.fullEnergy) : b.Tracked := by
  have full := fullEnergy_eq someCapacity
  have error := percentage_error nonneg le (by omega)
  rw [← charge, full] at error
  have chargeNonneg : 0 ≤ b.charge.toInt := charge ▸ (toInt_percentage _ _).1
  exact ⟨someCapacity, near_of_error someCapacity (Reading.toInt_le_highest b.parameters.capacity)
    chargeNonneg nonneg error⟩

/-- At the outset a whole percentage is stored, and the estimate is exact. -/
theorem tracked_of_create {p : Parameters} (someCapacity : 0 < p.capacity.toInt)
    (created : create p = .ok b) : b.Tracked := by
  obtain ⟨energy, started, same⟩ := bind_eq_ok_iff.mp created
  cases same
  cases (startEnergy_eq p).symm.trans started
  obtain ⟨stored, product⟩ : ∃ stored, stored = p.capacity.toInt * p.startCharge.toInt := ⟨_, rfl⟩
  have nonneg : 0 ≤ stored :=
    product ▸ Int.mul_nonneg someCapacity.le (toInt_startCharge p).1
  have whole : p.fullEnergy * p.startCharge.toInt = stored * 3600000 := by
    rw [fullEnergy_eq someCapacity, product]
    ring
  have small : stored.tdiv 100 = (stored * 36000).tdiv 3600000 := by
    rw [Int.tdiv_eq_ediv_of_nonneg nonneg, Int.tdiv_eq_ediv_of_nonneg (by omega)]
    omega
  have energy : (p.fullEnergy * p.startCharge.toInt).tdiv 100 = stored * 36000 := by
    rw [whole, Int.tdiv_eq_ediv_of_nonneg (by omega)]
    omega
  refine ⟨someCapacity, ?_⟩
  change 200 * |(p.capacity.toInt * p.startCharge.toInt).tdiv 100 -
    ((p.fullEnergy * p.startCharge.toInt).tdiv 100).tdiv 3600000| ≤ p.capacity.toInt + 200
  rw [energy, ← small, ← product, sub_self, abs_zero]
  omega

theorem Tracked.step (tracked : b.Tracked) (changes : Changes b b') : b'.Tracked := by
  obtain ⟨someCapacity, near⟩ := tracked
  cases changes with
  | kept parameters energy charge =>
    rw [← parameters] at someCapacity
    refine ⟨someCapacity, ?_⟩
    rw [estimate, energyInWattHours, parameters, energy, charge]
    exact near
  | applied parameters integrated =>
    rcases integrate_cases integrated with ⟨energy, charge⟩ | ⟨elapsed, -, energy, charge⟩
    · rw [← parameters] at someCapacity
      refine ⟨someCapacity, ?_⟩
      rw [estimate, energyInWattHours, parameters, energy, charge]
      exact near
    · have nonneg := fullEnergy_nonneg b.parameters
      rw [← parameters] at someCapacity charge energy nonneg
      have low : (0 : ℤ) ≤ b'.energy := by omega
      have high : (b'.energy : ℤ) ≤ b'.parameters.fullEnergy := by
        rw [energy]
        exact Int.min_le_right _ _
      exact .of_percentage someCapacity low high charge

/-- Whatever is done to a battery, the energy that its readings tell is within half a percent of the
capacity and one Wh of the energy that it holds. -/
theorem estimate_near_energy {p : Parameters} {operations : List Operation}
    (someCapacity : 0 < p.capacity.toInt) (created : create p = .ok b)
    (performed : b.performAll operations = .ok b') :
    ∃ estimate : ℤ, StorageUnit.storedEnergy b' = .ok estimate ∧
      200 * |estimate - b'.energyInWattHours| ≤ p.capacity.toInt + 200 := by
  have bounded := of_performAll Bounded.step performed (bounded_of_create created)
  have tracked := of_performAll Tracked.step performed (tracked_of_create someCapacity created)
  have parameters : b'.parameters = p :=
    of_performAll (fun same changes => changes.parameters_eq.trans same) performed
      (parameters_of_create created)
  refine ⟨b'.estimate, storedEnergy_eq bounded, ?_⟩
  rw [← parameters]
  exact tracked.near

/-- A battery delivers 500 W from one instant to another. -/
def lag (start finish : Instant) : List Operation :=
  [.applyPower start 500 0, .applyPower finish 0 0]

/-- Half a percent of the capacity is gone, and the state of charge does not tell. -/
theorem estimate_near_energy_lagging : ∃ b b',
    0 < UnitSpec.default.parameters.capacity.toInt ∧
      create UnitSpec.default.parameters = .ok b ∧ b.performAll (lag (hour 9) (hour 10)) = .ok b' ∧
      b'.energyInWattHours = 49500 ∧ StorageUnit.storedEnergy b' = .ok 50000 ∧
      200 * |(50000 : ℤ) - 49500| ≤ UnitSpec.default.parameters.capacity.toInt + 200 := by
  have trace : (do
      let b ← (create UnitSpec.default.parameters).toOption
      let b' ← (b.performAll (lag (hour 9) (hour 10))).toOption
      some (decide (b'.energyInWattHours = 49500 ∧
        (StorageUnit.storedEnergy b').toOption = some 50000))) = some true := by
    decide +kernel
  simp only [Option.bind_eq_bind, Option.bind_eq_some_iff] at trace
  obtain ⟨b, created, b', performed, facts⟩ := trace
  obtain ⟨held, told⟩ := of_decide_eq_true (Option.some.inj facts)
  have someCapacity : 0 < UnitSpec.default.parameters.capacity.toInt := by decide
  obtain ⟨estimate, stored, near⟩ := estimate_near_energy someCapacity (ok_of_toOption created)
    (ok_of_toOption performed)
  cases stored.symm.trans (ok_of_toOption told)
  rw [held] at near
  exact ⟨b, b', someCapacity, ok_of_toOption created, ok_of_toOption performed, held, stored, near⟩

end Battery

end HybridStorage
