import HybridStorage.Dispatch.Table
import HybridStorage.Proofs.Readings
import HybridStorage.Proofs.Results
import Mathlib.Algebra.Group.Nat.Defs

/-!
# Bounds of shares

A share of a required power lies between zero and that power, although the product is rounded to a
double. So no split of a power fails. In the default table the main unit has a fifth or more of a
charge, unless it is GREEN and the support unit RED.
-/

namespace HybridStorage

namespace Binary64

namespace Magnitude

theorem numerator_eq (x : Magnitude) : x.numerator = x.mantissa * 2 ^ x.exponent.toNat :=
  Nat.shiftLeft_eq _ _

theorem denominator_eq (x : Magnitude) : x.denominator = 2 ^ (-x.exponent).toNat :=
  Nat.one_shiftLeft _

theorem denominator_ne_zero (x : Magnitude) : x.denominator ≠ 0 := by
  rw [denominator_eq]
  exact Nat.ne_of_gt (Nat.pow_pos (by decide))

end Magnitude

theorem roundHalfEven_le {n d m : Nat} (positive : 0 < d) (le : n ≤ m * d) :
    roundHalfEven n d ≤ m := by
  have floor : n / d ≤ m := Nat.div_le_of_le_mul (by rwa [Nat.mul_comm] at le)
  have whole := Nat.div_add_mod n d
  unfold roundHalfEven
  dsimp only
  split
  · exact floor
  · next up =>
    -- Only a quotient with a remainder is rounded up, and then its floor is below `m`.
    have remainder : 0 < n % d := by omega
    have below : n / d ≠ m := by
      rintro rfl
      rw [Nat.mul_comm] at le
      omega
    omega

theorem le_roundHalfEven {n d m : Nat} (positive : 0 < d) (le : m * d ≤ n) :
    m ≤ roundHalfEven n d := by
  have floor : m ≤ n / d := (Nat.le_div_iff_mul_le positive).mpr le
  unfold roundHalfEven
  dsimp only
  split
  · exact floor
  · exact Nat.le_succ_of_le floor

theorem binaryOrder_lt {n d k : Nat} (someN : n ≠ 0) (lt : n < 2 ^ k * d) :
    binaryOrder n d < k := by
  unfold binaryOrder
  simp only [Nat.shiftLeft_eq]
  split
  · next fits =>
    by_cases order : (k : Int) ≤ (n.log2 : Int) - (d.log2 : Int)
    · have up : ((n.log2 : Int) - (d.log2 : Int)).toNat = n.log2 - d.log2 := by omega
      have down : (-((n.log2 : Int) - (d.log2 : Int))).toNat = 0 := by omega
      rw [up, down, pow_zero, Nat.mul_one] at fits
      have pow : 2 ^ k ≤ 2 ^ (n.log2 - d.log2) := Nat.pow_le_pow_right (by decide) (by omega)
      have beyond := Nat.mul_le_mul_left d pow
      rw [Nat.mul_comm] at lt
      omega
    · omega
  · have above : n < 2 ^ (k + (d.log2 + 1)) := by
      rw [pow_add]
      have next : d < 2 ^ (d.log2 + 1) := Nat.lt_log2_self
      exact Nat.lt_of_lt_of_le lt (Nat.mul_le_mul_left _ (Nat.le_of_lt next))
    have order := (Nat.log2_lt someN).mpr above
    omega

/-- A quotient is rounded in units of its last place. -/
theorem nearest_of_unit {n d : Nat} (someN : n ≠ 0) {u : Int}
    (unit : u = max (-1074) (binaryOrder n d - 52)) :
    nearest n d = ⟨roundHalfEven (n * 2 ^ (-u).toNat) (d * 2 ^ u.toNat), u⟩ := by
  rw [nearest, if_neg someN, unit, ← Nat.shiftLeft_eq, ← Nat.shiftLeft_eq]

/-- Below `2 ^ 52` a rounded quotient has more than the bits of its floor. -/
theorem floor_nearest {n d : Nat} (someN : n ≠ 0) (lt : n < 2 ^ 52 * d) :
    ∃ e : Nat, (nearest n d).floor = roundHalfEven (n * 2 ^ e) d / 2 ^ e := by
  have order := binaryOrder_lt someN lt
  obtain ⟨u, unit⟩ : ∃ u, u = max (-1074) (binaryOrder n d - 52) := ⟨_, rfl⟩
  have up : u.toNat = 0 := by omega
  rw [nearest_of_unit someN unit]
  refine ⟨(-u).toNat, ?_⟩
  rw [Magnitude.floor, Magnitude.numerator_eq, Magnitude.denominator_eq]
  dsimp only
  rw [up, pow_zero, Nat.mul_one, Nat.mul_one]

theorem floor_nearest_le {n d m : Nat} (someD : d ≠ 0) (small : m < 2 ^ 52) (le : n ≤ m * d) :
    (nearest n d).floor ≤ m := by
  by_cases someN : n = 0
  · rw [nearest, if_pos someN, Magnitude.floor, Magnitude.numerator_eq, Nat.zero_mul, Nat.zero_div]
    exact Nat.zero_le m
  · have lt : n < 2 ^ 52 * d :=
      Nat.lt_of_le_of_lt le (Nat.mul_lt_mul_of_pos_right small (Nat.pos_of_ne_zero someD))
    obtain ⟨e, floor⟩ := floor_nearest someN lt
    rw [floor]
    apply Nat.div_le_of_le_mul
    apply roundHalfEven_le (Nat.pos_of_ne_zero someD)
    calc n * 2 ^ e ≤ m * d * 2 ^ e := Nat.mul_le_mul_right _ le
      _ = 2 ^ e * m * d := by rw [Nat.mul_right_comm, Nat.mul_comm m]

theorem floor_nearest_pos {n d : Nat} (someD : d ≠ 0) (lt : n < 2 ^ 52 * d) (le : d ≤ n) :
    0 < (nearest n d).floor := by
  obtain ⟨e, floor⟩ := floor_nearest (by omega) lt
  rw [floor]
  apply Nat.div_pos _ (Nat.pow_pos (by decide))
  apply le_roundHalfEven (Nat.pos_of_ne_zero someD)
  rw [Nat.mul_comm]
  exact Nat.mul_le_mul_right _ le

end Binary64

open Binary64

namespace Share

theorem numerator_le (s : Share) : s.magnitude.numerator ≤ s.magnitude.denominator := by
  have within := s.inUnitInterval
  unfold Binary64.inUnitInterval at within
  unfold magnitude
  split at within
  · next negative m finite =>
    rcases of_decide_eq_true within with none | ⟨-, le⟩
    · simp only [Magnitude.numerator_eq, none, Nat.zero_mul, Nat.zero_le]
    · exact le
  · cases within

theorem natAbs_lt (required : Watts) : required.toInt.natAbs < 2 ^ 52 := by
  have fits := Reading.fits_iff.mp (Reading.fits_toInt required)
  omega

theorem numerator_mul_lt (s : Share) (required : Watts) :
    s.magnitude.numerator * required.toInt.natAbs < 2 ^ 52 * s.magnitude.denominator := by
  have positive := Nat.pos_of_ne_zero s.magnitude.denominator_ne_zero
  rw [Nat.mul_comm]
  exact Nat.lt_of_le_of_lt (Nat.mul_le_mul_left _ s.numerator_le)
    (Nat.mul_lt_mul_of_pos_right (natAbs_lt required) positive)

/-- A share lies between zero and the required power. -/
theorem ofRequired_bounds (s : Share) (required : Watts) :
    min required.toInt 0 ≤ s.ofRequired required ∧
      s.ofRequired required ≤ max required.toInt 0 := by
  have small := natAbs_lt required
  have product : s.magnitude.numerator * required.toInt.natAbs ≤
      required.toInt.natAbs * s.magnitude.denominator := by
    rw [Nat.mul_comm]
    exact Nat.mul_le_mul_left _ s.numerator_le
  have size := floor_nearest_le s.magnitude.denominator_ne_zero small product
  unfold ofRequired
  dsimp only
  split
  · omega
  · omega

theorem split_ok (s : Share) (required : Watts) :
    ∃ main support, s.split required = .ok (main, support) ∧
      main.toInt = s.ofRequired required := by
  obtain ⟨above, below⟩ := s.ofRequired_bounds required
  have fits := Reading.fits_iff.mp (Reading.fits_toInt required)
  have part : (Reading.saturate (s.ofRequired required)).toInt = s.ofRequired required := by
    apply Reading.toInt_saturate_of_fits
    rw [Reading.fits_iff]
    omega
  obtain ⟨rest, left⟩ : ∃ rest,
      Reading.sub required (Reading.saturate (s.ofRequired required)) = .ok rest := by
    apply Reading.sub_ok
    rw [part]
    rw [Reading.fits_iff]
    omega
  exact ⟨_, rest, bind_eq_ok_iff.mpr ⟨rest, left, rfl⟩, part⟩

/-- A share of at least a fifth gives the main unit something of five watts or more. -/
theorem ofRequired_ne_zero {s : Share}
    (fifth : s.magnitude.denominator ≤ 5 * s.magnitude.numerator) {required : Watts}
    (some : 5 ≤ required.toInt.natAbs) : s.ofRequired required ≠ 0 := by
  have product : s.magnitude.denominator ≤ s.magnitude.numerator * required.toInt.natAbs := by
    rw [Nat.mul_comm] at fifth
    exact Nat.le_trans fifth (Nat.mul_le_mul_left _ some)
  have size := floor_nearest_pos s.magnitude.denominator_ne_zero (s.numerator_mul_lt required)
    product
  unfold ofRequired
  dsimp only
  split
  · omega
  · omega

end Share

theorem ShareTable.fifth_le_chargeShare (main support : ChargeArea) :
    (main = .green ∧ support = .red) ∨
      (default.chargeShare main support).magnitude.denominator ≤
        5 * (default.chargeShare main support).magnitude.numerator := by
  cases main <;> cases support <;> decide

end HybridStorage
