import HybridStorage.Proofs.Redistribution
import HybridStorage.Proofs.Rounding

/-!
# Splits of the required power

A double is accepted as a share exactly if it stands for a number from 0 to 1. The main unit's part
of a required power is then the nearest double to the exact product, without its fraction, and the
support unit's part is the rest. Both parts lie between zero and the required power, and a larger
share never gives the main unit less.
-/

namespace HybridStorage

open Binary64

namespace Binary64

theorem Magnitude.toRat_le_one_iff {x : Magnitude} : x.toRat ≤ 1 ↔ x.numerator ≤ x.denominator := by
  have positive : (0 : ℚ) < x.denominator := by
    exact_mod_cast Nat.pos_of_ne_zero x.denominator_ne_zero
  rw [toRat, div_le_one positive, Nat.cast_le]

theorem inUnitInterval_iff {x : Binary64} :
    x.inUnitInterval = true ↔ ∃ f, x.toRat? = some f ∧ 0 ≤ f ∧ f ≤ 1 := by
  unfold inUnitInterval toRat?
  cases x.value with
  | nan => simp
  | infinite negative => simp
  | finite negative m =>
    simp only [decide_eq_true_eq, Option.some.injEq, exists_eq_left']
    by_cases zero : m.mantissa = 0
    · have same : signed negative m.toRat = 0 := by
        rw [Magnitude.toRat_eq_zero zero]
        cases negative <;> rfl
      rw [same]
      exact iff_of_true (.inl zero) ⟨le_rfl, zero_le_one⟩
    · have positive := Magnitude.toRat_pos zero
      cases negative with
      | false =>
        change _ ↔ 0 ≤ m.toRat ∧ m.toRat ≤ 1
        simp [zero, positive.le, Magnitude.toRat_le_one_iff]
      | true =>
        change _ ↔ 0 ≤ -m.toRat ∧ -m.toRat ≤ 1
        simp [zero, positive]

end Binary64

namespace Share

theorem value_eq_finite (s : Share) : ∃ negative, s.value.value = .finite negative s.magnitude := by
  have within := s.inUnitInterval
  unfold Binary64.inUnitInterval at within
  unfold magnitude
  cases value : s.value.value with
  | finite negative m => exact ⟨negative, rfl⟩
  | _ => simp [value] at within

theorem magnitude_canonical (s : Share) : s.magnitude.Canonical :=
  s.value_eq_finite.elim fun _ finite => canonical_of_value finite

/-- A share stands for its magnitude, since the only negative one is a zero. -/
theorem toRat?_value (s : Share) : s.value.toRat? = some s.magnitude.toRat := by
  obtain ⟨negative, finite⟩ := s.value_eq_finite
  obtain ⟨f, stands, nonneg, -⟩ := inUnitInterval_iff.mp s.inUnitInterval
  have value : s.value.toRat? = some (signed negative s.magnitude.toRat) := by
    rw [toRat?, finite]
  cases value.symm.trans stands
  rw [value]
  cases negative with
  | false => rfl
  | true =>
    change 0 ≤ -s.magnitude.toRat at nonneg
    have zero : s.magnitude.toRat = 0 := le_antisymm (by linarith) s.magnitude.toRat_nonneg
    change some (-s.magnitude.toRat) = some s.magnitude.toRat
    rw [zero, neg_zero]

theorem product_eq (s : Share) (required : Watts) :
    signed (required.toInt < 0) (((s.magnitude.numerator * required.toInt.natAbs : ℕ) : ℚ) /
      s.magnitude.denominator) = s.magnitude.toRat * required.toInt := by
  rw [Nat.cast_mul, mul_div_right_comm, ← Magnitude.toRat]
  rcases lt_or_ge required.toInt 0 with negative | nonneg
  · have size : ((required.toInt.natAbs : ℕ) : ℚ) = -required.toInt := by
      rw [Nat.cast_natAbs, abs_of_neg negative, Int.cast_neg]
    rw [signed, if_pos (decide_eq_true negative), size, mul_neg, neg_neg]
  · have size : ((required.toInt.natAbs : ℕ) : ℚ) = required.toInt := by
      rw [Nat.cast_natAbs, abs_of_nonneg nonneg]
    rw [signed, if_neg (by simpa using nonneg), size]

/-- The main unit's part is the product, rounded to a double and without its fraction. -/
theorem ofRequired_eq_truncate (s : Share) (required : Watts) : ∃ product v,
    IsNearest (s.magnitude.toRat * required.toInt) product v ∧
      s.ofRequired required = truncate v := by
  have nearest := isNearest_pack (s.numerator_mul_lt required) (required.toInt < 0)
  rw [product_eq] at nearest
  refine ⟨_, _, nearest, ?_⟩
  rw [truncate_signed, ofRequired]
  simp only [decide_eq_true_eq]

theorem natAbs_ofRequired (s : Share) (required : Watts) : (s.ofRequired required).natAbs =
    (nearest (s.magnitude.numerator * required.toInt.natAbs) s.magnitude.denominator).floor := by
  unfold ofRequired
  dsimp only
  split <;> omega

/-- A larger share never gives the main unit less. -/
theorem natAbs_ofRequired_le {s t : Share} (le : s.magnitude.toRat ≤ t.magnitude.toRat)
    (required : Watts) : (s.ofRequired required).natAbs ≤ (t.ofRequired required).natAbs := by
  rw [natAbs_ofRequired, natAbs_ofRequired]
  rcases le.eq_or_lt with same | lt
  · rw [s.magnitude_canonical.eq_of_toRat t.magnitude_canonical same]
  · by_cases zero : required.toInt = 0
    · rw [zero, Int.natAbs_zero, Nat.mul_zero, Nat.mul_zero, Binary64.nearest, Binary64.nearest,
        if_pos rfl, if_pos rfl]
    · have smaller := isNearest_pack (s.numerator_mul_lt required) false
      have larger := isNearest_pack (t.numerator_mul_lt required) false
      apply Magnitude.floor_le
      apply smaller.le larger
      have size : (0 : ℚ) < required.toInt.natAbs := by
        exact_mod_cast Int.natAbs_pos.mpr zero
      change _ / _ < _ / _
      rw [Nat.cast_mul, Nat.cast_mul, mul_div_right_comm, mul_div_right_comm]
      exact mul_lt_mul_of_pos_right lt size

/-- The parts of a power when the main unit is asked for the fraction `f` of it. -/
structure IsSplit (f : ℚ) (required : Watts) (parts : Watts × Watts) : Prop where
  whole : parts.1.toInt + parts.2.toInt = required.toInt
  main_between : min required.toInt 0 ≤ parts.1.toInt ∧ parts.1.toInt ≤ max required.toInt 0
  support_between : min required.toInt 0 ≤ parts.2.toInt ∧ parts.2.toInt ≤ max required.toInt 0
  rounded : ∃ product v, IsNearest (f * required.toInt) product v ∧ parts.1.toInt = truncate v

theorem split_parts (s : Share) (required : Watts) : ∃ parts, s.split required = .ok parts ∧
    parts.1.toInt = s.ofRequired required ∧ IsSplit s.magnitude.toRat required parts := by
  obtain ⟨main, support, split, part⟩ := s.split_ok required
  have whole := split_sum split
  have between := s.ofRequired_bounds required
  rw [← part] at between
  obtain ⟨product, v, nearest, truncated⟩ := s.ofRequired_eq_truncate required
  refine ⟨_, split, part, whole, between, ?_, product, v, nearest, part.trans truncated⟩
  dsimp only at whole ⊢
  omega

theorem ofBinary64_eq_ok_iff {x : Binary64} {s : Share} : ofBinary64 x = .ok s ↔ s.value = x := by
  unfold ofBinary64
  constructor
  · intro h
    split at h <;> cases h
    rfl
  · rintro rfl
    rw [dif_pos s.inUnitInterval]

/-- A number from 0 to 1 splits every power, and a larger one never gives the main unit less. Any
other double is rejected. -/
theorem split_by_fraction (x : Binary64) :
    (∀ f, x.toRat? = some f → 0 ≤ f → f ≤ 1 →
      ∃ s, ofBinary64 x = .ok s ∧ ∀ required, ∃ parts, s.split required = .ok parts ∧
        IsSplit f required parts ∧
        ∀ y g t, y.toRat? = some g → f ≤ g → ofBinary64 y = .ok t →
          ∃ others, t.split required = .ok others ∧
            parts.1.toInt.natAbs ≤ others.1.toInt.natAbs) ∧
    ((¬∃ f, x.toRat? = some f ∧ 0 ≤ f ∧ f ≤ 1) → ofBinary64 x = .error (.invalidShare x)) := by
  refine ⟨fun f stands nonneg le => ?_, fun outside => ?_⟩
  · have accepted := inUnitInterval_iff.mpr ⟨f, stands, nonneg, le⟩
    refine ⟨⟨x, accepted⟩, dif_pos accepted, fun required => ?_⟩
    have value := toRat?_value ⟨x, accepted⟩
    obtain ⟨parts, split, part, fraction⟩ := split_parts ⟨x, accepted⟩ required
    cases value.symm.trans stands
    refine ⟨parts, split, fraction, fun y g t other larger taken => ?_⟩
    cases ofBinary64_eq_ok_iff.mp taken
    cases t.toRat?_value.symm.trans other
    obtain ⟨others, otherSplit, otherPart, -⟩ := t.split_parts required
    refine ⟨others, otherSplit, ?_⟩
    rw [part, otherPart]
    exact natAbs_ofRequired_le larger required
  · exact dif_neg fun accepted => outside (inUnitInterval_iff.mp accepted)

theorem split_by_fraction_threeTenths :
    (⟨0x3fd3333333333333⟩ : Binary64).toRat? = some (5404319552844595 / 18014398509481984) ∧
      (0 : ℚ) ≤ 5404319552844595 / 18014398509481984 ∧
      (5404319552844595 / 18014398509481984 : ℚ) ≤ 1 ∧
      (∃ s, ofBinary64 ⟨0x3fd3333333333333⟩ = .ok s ∧
        s.split (-200000) = .ok (-60000, -140000) ∧
        IsSplit (5404319552844595 / 18014398509481984) (-200000) (-60000, -140000)) ∧
      (¬∃ f, (Binary64.nan false).toRat? = some f ∧ 0 ≤ f ∧ f ≤ 1) ∧
      ofBinary64 (.nan false) = .error (.invalidShare (.nan false)) := by
  have stands : (⟨0x3fd3333333333333⟩ : Binary64).toRat? =
      some (5404319552844595 / 18014398509481984) := by decide +kernel
  have nonneg : (0 : ℚ) ≤ 5404319552844595 / 18014398509481984 := by norm_num
  have le : (5404319552844595 / 18014398509481984 : ℚ) ≤ 1 := by norm_num
  have outside : ¬∃ f, (Binary64.nan false).toRat? = some f ∧ 0 ≤ f ∧ f ≤ 1 := by
    rintro ⟨f, stands, -⟩
    cases stands
  refine ⟨stands, nonneg, le, ?_, outside, (split_by_fraction _).2 outside⟩
  obtain ⟨s, accepted, splits⟩ := (split_by_fraction _).1 _ stands nonneg le
  obtain ⟨parts, split, fraction, -⟩ := splits (-200000)
  have known : s.split (-200000) = .ok (-60000, -140000) := by
    cases accepted
    decide +kernel
  cases split.symm.trans known
  exact ⟨s, accepted, known, fraction⟩

end Share

end HybridStorage
