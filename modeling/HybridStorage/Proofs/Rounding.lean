import HybridStorage.Proofs.Shares
import Mathlib.Algebra.Order.Field.Power
import Mathlib.Data.Rat.Floor
import Mathlib.Tactic.FieldSimp
import Mathlib.Tactic.Linarith
import Mathlib.Tactic.Positivity

/-!
# Rounding to the nearest double

A double stands for a rational number. The result of rounding a quotient is the double nearest to it
among all doubles, and of two equally near ones the one with an even last bit. So rounding keeps the
order of what is rounded.
-/

namespace HybridStorage.Binary64

/-! ### Doubles as rational numbers -/

def Magnitude.toRat (x : Magnitude) : ℚ := x.numerator / x.denominator

def signed (negative : Bool) (q : ℚ) : ℚ := if negative then -q else q

/-- The number that a double stands for; an infinity and a NaN stand for none. -/
def toRat? (x : Binary64) : Option ℚ :=
  match x.value with
  | .finite negative magnitude => some (signed negative magnitude.toRat)
  | _ => none

theorem hiddenBit_eq : hiddenBit = 2 ^ 52 := rfl

theorem signBit_eq : signBit = 2 ^ 63 := rfl

theorem two_zpow (e : ℤ) : (2 : ℚ) ^ e = (2 ^ e.toNat : ℕ) / (2 ^ (-e).toNat : ℕ) := by
  obtain ⟨k, rfl | rfl⟩ := Int.eq_nat_or_neg e
  · simp
  · simp

theorem two_zpow_pos (e : ℤ) : (0 : ℚ) < 2 ^ e := zpow_pos (by norm_num) e

theorem Magnitude.toRat_eq (x : Magnitude) : x.toRat = x.mantissa * 2 ^ x.exponent := by
  rw [toRat, numerator_eq, denominator_eq, two_zpow, Nat.cast_mul, mul_div_assoc]

theorem Magnitude.toRat_nonneg (x : Magnitude) : 0 ≤ x.toRat :=
  div_nonneg (Nat.cast_nonneg _) (Nat.cast_nonneg _)

theorem Magnitude.toRat_eq_zero {x : Magnitude} (zero : x.mantissa = 0) : x.toRat = 0 := by
  rw [x.toRat_eq, zero, Nat.cast_zero, zero_mul]

theorem Magnitude.toRat_pos {x : Magnitude} (nonzero : x.mantissa ≠ 0) : 0 < x.toRat := by
  rw [x.toRat_eq]
  exact mul_pos (by exact_mod_cast Nat.pos_of_ne_zero nonzero) (two_zpow_pos _)

/-- The form in which a double holds a magnitude: the greatest mantissa below `2 ^ 53` that the
least exponent allows. -/
structure Magnitude.Canonical (x : Magnitude) : Prop where
  mantissa_lt : x.mantissa < 2 ^ 53
  least_le : -1074 ≤ x.exponent
  normal : -1074 < x.exponent → 2 ^ 52 ≤ x.mantissa

theorem canonical_of_value {x : Binary64} {negative : Bool} {m : Magnitude}
    (finite : x.value = .finite negative m) : m.Canonical := by
  have fraction := Nat.mod_lt x.bits.toNat (show 0 < 2 ^ 52 by decide)
  unfold value at finite
  rw [hiddenBit_eq] at finite
  dsimp only at finite
  split at finite
  · split at finite <;> cases finite
  · split at finite
    · cases finite
      constructor <;> dsimp only <;> omega
    · cases finite
      constructor <;> dsimp only <;> omega

theorem two_zpow_of_le {e f : ℤ} (le : e ≤ f) :
    (2 : ℚ) ^ f = (2 ^ (f - e).toNat : ℕ) * 2 ^ e := by
  rw [Nat.cast_pow, Nat.cast_ofNat, ← zpow_natCast, ← zpow_add₀ (by norm_num)]
  congr 1
  omega

/-- What 53 bits hold in a smaller unit lies below all normal magnitudes in a larger one. -/
theorem mul_two_zpow_lt {m : ℚ} (bits : m < 2 ^ 53) {e f : ℤ} (lt : e < f) :
    m * 2 ^ e < 2 ^ 52 * 2 ^ f :=
  calc m * 2 ^ e < 2 ^ 53 * 2 ^ e := mul_lt_mul_of_pos_right bits (two_zpow_pos e)
    _ = 2 ^ 52 * 2 ^ (e + 1) := by rw [zpow_add_one₀ (by norm_num)]; ring
    _ ≤ 2 ^ 52 * 2 ^ f :=
      mul_le_mul_of_nonneg_left (zpow_le_zpow_right₀ (by norm_num) (by omega)) (by norm_num)

theorem Magnitude.Canonical.toRat_lt {x y : Magnitude} (hx : x.Canonical) (hy : y.Canonical)
    (lt : x.exponent < y.exponent) : x.toRat < y.toRat := by
  have least := hx.least_le
  have normal : (2 ^ 52 : ℚ) ≤ y.mantissa := by exact_mod_cast hy.normal (by omega)
  have bits : (x.mantissa : ℚ) < 2 ^ 53 := by exact_mod_cast hx.mantissa_lt
  calc x.toRat = x.mantissa * 2 ^ x.exponent := x.toRat_eq
    _ < 2 ^ 52 * 2 ^ y.exponent := mul_two_zpow_lt bits lt
    _ ≤ y.mantissa * 2 ^ y.exponent := mul_le_mul_of_nonneg_right normal (two_zpow_pos _).le
    _ = y.toRat := y.toRat_eq.symm

theorem Magnitude.Canonical.eq_of_toRat {x y : Magnitude} (hx : x.Canonical) (hy : y.Canonical)
    (same : x.toRat = y.toRat) : x = y := by
  rcases lt_trichotomy x.exponent y.exponent with lt | exponent | gt
  · exact absurd same (hx.toRat_lt hy lt).ne
  · rw [x.toRat_eq, y.toRat_eq, exponent] at same
    have mantissa : (x.mantissa : ℚ) = y.mantissa := mul_right_cancel₀ (two_zpow_pos _).ne' same
    cases x
    cases y
    simp only [Magnitude.mk.injEq]
    exact ⟨Nat.cast_injective mantissa, exponent⟩
  · exact absurd same (hy.toRat_lt hx gt).ne'

/-! ### Rounding to integers -/

/-- An integer within a half of a number is one of the nearest. -/
theorem nearest_integer {z : ℕ} {q : ℚ} (near : 2 * |(z : ℚ) - q| ≤ 1) (k : ℤ) :
    |(z : ℚ) - q| ≤ |(k : ℚ) - q| ∧
      (|(z : ℚ) - q| = |(k : ℚ) - q| → k = z ∨ 2 * |(z : ℚ) - q| = 1) := by
  by_cases same : k = z
  · rw [same, Int.cast_natCast]
    exact ⟨le_rfl, fun _ => .inl rfl⟩
  · have apart : (1 : ℚ) ≤ |(k : ℚ) - z| := by
      exact_mod_cast Int.one_le_abs (sub_ne_zero.mpr same)
    have around : |(k : ℚ) - z| ≤ |(k : ℚ) - q| + |(z : ℚ) - q| := by
      rw [abs_sub_comm (z : ℚ) q]
      exact abs_sub_le _ _ _
    exact ⟨by linarith, fun tie => .inr (by linarith)⟩

/-- Of all integers the rounded quotient is one of the nearest, and it is even if there are two. -/
theorem roundHalfEven_nearest {a b : ℕ} (positive : 0 < b) (k : ℤ) :
    |(roundHalfEven a b : ℚ) - (a : ℚ) / b| ≤ |(k : ℚ) - (a : ℚ) / b| ∧
      (|(roundHalfEven a b : ℚ) - (a : ℚ) / b| = |(k : ℚ) - (a : ℚ) / b| →
        k = roundHalfEven a b ∨ roundHalfEven a b % 2 = 0) := by
  have b_pos : (0 : ℚ) < b := by exact_mod_cast positive
  have parts : (a : ℚ) / b = (a / b : ℕ) + ((a % b : ℕ) : ℚ) / b :=
    calc (a : ℚ) / b = (b * (a / b : ℕ) + (a % b : ℕ)) / b := by
          rw [← Nat.cast_mul, ← Nat.cast_add, Nat.div_add_mod]
      _ = (a / b : ℕ) + ((a % b : ℕ) : ℚ) / b := by
          rw [add_div, mul_div_cancel_left₀ _ b_pos.ne']
  have nonneg : (0 : ℚ) ≤ ((a % b : ℕ) : ℚ) / b := div_nonneg (Nat.cast_nonneg _) b_pos.le
  have below_one : ((a % b : ℕ) : ℚ) / b < 1 := by
    rw [div_lt_one b_pos]
    exact_mod_cast Nat.mod_lt a positive
  have twice : 2 * (((a % b : ℕ) : ℚ) / b) = ((2 * (a % b) : ℕ) : ℚ) / b := by
    rw [Nat.cast_mul, Nat.cast_ofNat, mul_div_assoc]
  unfold roundHalfEven
  dsimp only
  split
  · next down =>
    have distance : |((a / b : ℕ) : ℚ) - (a : ℚ) / b| = ((a % b : ℕ) : ℚ) / b := by
      rw [parts, sub_add_cancel_left, abs_neg, abs_of_nonneg nonneg]
    have low : 2 * (((a % b : ℕ) : ℚ) / b) ≤ 1 := by
      rw [twice, div_le_one b_pos]
      exact_mod_cast (show 2 * (a % b) ≤ b by omega)
    obtain ⟨nearest, tie⟩ := nearest_integer (by rwa [distance]) k
    refine ⟨nearest, fun same => (tie same).imp id fun half => ?_⟩
    rw [distance, twice, div_eq_one_iff_eq b_pos.ne', Nat.cast_inj] at half
    omega
  · next up =>
    have distance : |((a / b + 1 : ℕ) : ℚ) - (a : ℚ) / b| = 1 - ((a % b : ℕ) : ℚ) / b := by
      rw [parts, Nat.cast_succ, add_sub_add_left_eq_sub, abs_of_pos (by linarith)]
    have high : 1 ≤ 2 * (((a % b : ℕ) : ℚ) / b) := by
      rw [twice, one_le_div b_pos]
      exact_mod_cast (show b ≤ 2 * (a % b) by omega)
    obtain ⟨nearest, tie⟩ := nearest_integer (by rw [distance]; linarith) k
    refine ⟨nearest, fun same => (tie same).imp id fun half => ?_⟩
    have exact_half : 2 * (((a % b : ℕ) : ℚ) / b) = 1 := by linarith
    rw [twice, div_eq_one_iff_eq b_pos.ne', Nat.cast_inj] at exact_half
    omega

/-! ### Rounding to 53 bits -/

section

variable {n d : ℕ}

theorem pow_mul_le_iff (someD : d ≠ 0) (e : ℤ) :
    d * 2 ^ e.toNat ≤ n * 2 ^ (-e).toNat ↔ (2 : ℚ) ^ e ≤ (n : ℚ) / d := by
  have d_pos : (0 : ℚ) < d := by exact_mod_cast Nat.pos_of_ne_zero someD
  have down_pos : (0 : ℚ) < (2 ^ (-e).toNat : ℕ) := by exact_mod_cast Nat.pow_pos (by decide)
  rw [two_zpow, div_le_div_iff₀ down_pos d_pos, mul_comm (_ : ℚ) (d : ℚ)]
  exact_mod_cast Iff.rfl

theorem binaryOrder_bounds (someN : n ≠ 0) (someD : d ≠ 0) :
    (2 : ℚ) ^ binaryOrder n d ≤ (n : ℚ) / d ∧ (n : ℚ) / d < 2 ^ (binaryOrder n d + 1) := by
  have d_pos : (0 : ℚ) < d := by exact_mod_cast Nat.pos_of_ne_zero someD
  have n_low : (2 : ℚ) ^ (n.log2 : ℤ) ≤ n := by
    rw [zpow_natCast]
    exact_mod_cast Nat.log2_self_le someN
  have n_high : (n : ℚ) < 2 ^ ((n.log2 : ℤ) + 1) := by
    rw [← Nat.cast_succ, zpow_natCast]
    exact_mod_cast Nat.lt_log2_self
  have d_low : (2 : ℚ) ^ (d.log2 : ℤ) ≤ d := by
    rw [zpow_natCast]
    exact_mod_cast Nat.log2_self_le someD
  have d_high : (d : ℚ) < 2 ^ ((d.log2 : ℤ) + 1) := by
    rw [← Nat.cast_succ, zpow_natCast]
    exact_mod_cast Nat.lt_log2_self
  have below : (n : ℚ) / d < 2 ^ ((n.log2 : ℤ) - d.log2 + 1) := by
    rw [div_lt_iff₀ d_pos]
    calc (n : ℚ) < 2 ^ ((n.log2 : ℤ) + 1) := n_high
      _ = 2 ^ ((n.log2 : ℤ) - d.log2 + 1) * 2 ^ (d.log2 : ℤ) := by
        rw [← zpow_add₀ (by norm_num)]
        congr 1
        omega
      _ ≤ 2 ^ ((n.log2 : ℤ) - d.log2 + 1) * d :=
        mul_le_mul_of_nonneg_left d_low (two_zpow_pos _).le
  have above : (2 : ℚ) ^ ((n.log2 : ℤ) - d.log2 - 1) ≤ (n : ℚ) / d := by
    rw [le_div_iff₀ d_pos]
    calc (2 : ℚ) ^ ((n.log2 : ℤ) - d.log2 - 1) * d
        ≤ 2 ^ ((n.log2 : ℤ) - d.log2 - 1) * 2 ^ ((d.log2 : ℤ) + 1) :=
          mul_le_mul_of_nonneg_left d_high.le (two_zpow_pos _).le
      _ = 2 ^ (n.log2 : ℤ) := by
        rw [← zpow_add₀ (by norm_num)]
        congr 1
        omega
      _ ≤ n := n_low
  unfold binaryOrder
  simp only [Nat.shiftLeft_eq]
  split
  · next fits => exact ⟨(pow_mul_le_iff someD _).mp fits, below⟩
  · next misses =>
    rw [pow_mul_le_iff someD, not_le] at misses
    exact ⟨above, by rwa [sub_add_cancel]⟩

theorem distance_scaled {u : ℚ} (positive : 0 < u) (j q : ℚ) : |j * u - q| = |j - q / u| * u := by
  rw [← abs_of_pos positive, ← abs_mul, abs_of_pos positive, sub_mul,
    div_mul_cancel₀ _ positive.ne']

theorem scaled_quotient (n d : ℕ) (e : ℤ) :
    ((n * 2 ^ (-e).toNat : ℕ) : ℚ) / (d * 2 ^ e.toNat : ℕ) = (n : ℚ) / d / 2 ^ e := by
  rw [two_zpow, Nat.cast_mul, Nat.cast_mul]
  field_simp

/-- What is left of a quotient when its unit in the last place is taken as one. -/
theorem nearest_eq (someN : n ≠ 0) (someD : d ≠ 0) : ∃ (a b : ℕ) (u : ℤ), 0 < b ∧
    nearest n d = ⟨roundHalfEven a b, u⟩ ∧ (a : ℚ) / b = (n : ℚ) / d / 2 ^ u ∧ -1074 ≤ u ∧
    a < 2 ^ 53 * b ∧ (-1074 < u → 2 ^ 52 * b ≤ a) := by
  obtain ⟨low, high⟩ := binaryOrder_bounds someN someD
  obtain ⟨u, unit⟩ : ∃ u, u = max (-1074) (binaryOrder n d - 52) := ⟨_, rfl⟩
  have b_pos : 0 < d * 2 ^ u.toNat :=
    Nat.mul_pos (Nat.pos_of_ne_zero someD) (Nat.pow_pos (by decide))
  have scaled := scaled_quotient n d u
  refine ⟨_, _, u, b_pos, nearest_of_unit someN unit, scaled, by omega, ?_, fun above => ?_⟩
  · have less : (n : ℚ) / d / 2 ^ u < 2 ^ 53 := by
      rw [div_lt_iff₀ (two_zpow_pos _)]
      calc (n : ℚ) / d < 2 ^ (binaryOrder n d + 1) := high
        _ ≤ 2 ^ (53 + u) := zpow_le_zpow_right₀ (by norm_num) (by omega)
        _ = 2 ^ 53 * 2 ^ u := by
          rw [zpow_add₀ (by norm_num)]
          norm_num
    rw [← scaled, div_lt_iff₀ (by exact_mod_cast b_pos)] at less
    exact_mod_cast less
  · have more : (2 : ℚ) ^ 52 ≤ (n : ℚ) / d / 2 ^ u := by
      rw [le_div_iff₀ (two_zpow_pos _)]
      calc (2 : ℚ) ^ 52 * 2 ^ u = 2 ^ (52 + u) := by
            rw [zpow_add₀ (by norm_num)]
            norm_num
        _ ≤ 2 ^ binaryOrder n d := zpow_le_zpow_right₀ (by norm_num) (by omega)
        _ ≤ (n : ℚ) / d := low
    rw [← scaled, le_div_iff₀ (by exact_mod_cast b_pos)] at more
    exact_mod_cast more

/-- The rounded quotient is strictly nearer than a number below the least normal mantissa. -/
theorem roundHalfEven_nearer {a b : ℕ} (positive : 0 < b) (normal : 2 ^ 52 * b ≤ a) {r : ℚ}
    (low : r < 2 ^ 52) : |(roundHalfEven a b : ℚ) - (a : ℚ) / b| < |r - (a : ℚ) / b| := by
  have high : (2 : ℚ) ^ 52 ≤ (a : ℚ) / b := by
    rw [le_div_iff₀ (by exact_mod_cast positive)]
    exact_mod_cast normal
  have near := (roundHalfEven_nearest positive (a := a) (2 ^ 52)).1
  rw [Int.cast_pow, Int.cast_ofNat,
    abs_of_nonpos (by linarith : (2 : ℚ) ^ 52 - (a : ℚ) / b ≤ 0)] at near
  rw [abs_of_neg (by linarith : r - (a : ℚ) / b < 0)]
  linarith

/-- No number of 53 bits is nearer to the quotient than the rounded one, and if another one is as
near, the rounded one is even. -/
theorem nearest_distance (someD : d ≠ 0) {k e : ℤ} (bits : |k| < 2 ^ 53) (least : -1074 ≤ e) :
    |(nearest n d).toRat - (n : ℚ) / d| ≤ |(k : ℚ) * 2 ^ e - (n : ℚ) / d| ∧
      (|(nearest n d).toRat - (n : ℚ) / d| = |(k : ℚ) * 2 ^ e - (n : ℚ) / d| →
        (k : ℚ) * 2 ^ e = (nearest n d).toRat ∨ (nearest n d).mantissa % 2 = 0) := by
  by_cases someN : n = 0
  · have zero : (nearest n d).toRat = 0 := by
      rw [nearest, if_pos someN, Magnitude.toRat_eq_zero rfl]
    rw [zero, someN, Nat.cast_zero, zero_div, sub_zero, sub_zero, abs_zero]
    exact ⟨abs_nonneg _, fun tie => .inl (abs_eq_zero.mp tie.symm)⟩
  · obtain ⟨a, b, u, b_pos, rounded, quotient, u_least, -, normal⟩ := nearest_eq someN someD
    have unit_pos := two_zpow_pos u
    rw [rounded, Magnitude.toRat_eq, distance_scaled unit_pos, ← quotient]
    by_cases coarse : u ≤ e
    · -- The other number is a multiple of the unit.
      have multiple : (k : ℚ) * 2 ^ e = (k * (2 ^ (e - u).toNat : ℕ) : ℤ) * 2 ^ u := by
        rw [two_zpow_of_le coarse, Int.cast_mul, Int.cast_natCast, mul_assoc]
      obtain ⟨near, tie⟩ := roundHalfEven_nearest b_pos (a := a) (k * (2 ^ (e - u).toNat : ℕ))
      rw [multiple, distance_scaled unit_pos, ← quotient]
      refine ⟨mul_le_mul_of_nonneg_right near unit_pos.le, fun same => ?_⟩
      rcases tie (mul_right_cancel₀ unit_pos.ne' same) with equal | even
      · left
        rw [equal, Int.cast_natCast]
      · exact .inr even
    · -- The other number is below the binade of the quotient, whose least number is a multiple.
      have k_lt : (k : ℚ) < 2 ^ 53 := by exact_mod_cast lt_of_abs_lt bits
      have low : (k : ℚ) * 2 ^ e / 2 ^ u < 2 ^ 52 := by
        rw [div_lt_iff₀ unit_pos]
        exact mul_two_zpow_lt k_lt (by omega)
      have nearer := roundHalfEven_nearer b_pos (normal (by omega)) low
      have other : (k : ℚ) * 2 ^ e - (n : ℚ) / d =
          (k : ℚ) * 2 ^ e / 2 ^ u * 2 ^ u - (n : ℚ) / d := by rw [div_mul_cancel₀ _ unit_pos.ne']
      rw [other, distance_scaled unit_pos, ← quotient]
      have less := mul_lt_mul_of_pos_right nearer unit_pos
      exact ⟨less.le, fun same => absurd same less.ne⟩

end

/-! ### Patterns of rounded magnitudes -/

/-- What rounding results in: a canonical magnitude, or one whose mantissa was carried to the next
power of two. -/
structure Magnitude.Rounded (x : Magnitude) : Prop where
  mantissa_le : x.mantissa ≤ 2 ^ 53
  least_le : -1074 ≤ x.exponent
  normal : -1074 < x.exponent → 2 ^ 52 ≤ x.mantissa

theorem rounded_nearest (n : ℕ) {d : ℕ} (someD : d ≠ 0) : (nearest n d).Rounded := by
  by_cases someN : n = 0
  · rw [nearest, if_pos someN]
    constructor <;> simp
  · obtain ⟨a, b, u, b_pos, rounded, -, least, less, normal⟩ := nearest_eq someN someD
    rw [rounded]
    refine ⟨roundHalfEven_le b_pos less.le, least, fun above => ?_⟩
    exact le_roundHalfEven b_pos (normal above)

/-- What a pattern without a sign stands for, the exponent being unbounded. -/
def magnitudeOf (pattern : ℕ) : Magnitude :=
  if pattern < 2 ^ 52 then ⟨pattern, -1074⟩
  else ⟨2 ^ 52 + pattern % 2 ^ 52, ((pattern / 2 ^ 52 : ℕ) : ℤ) - 1075⟩

/-- Where the infinities are, beyond all numbers. -/
def infinitePlace : ℕ := 2047 * 2 ^ 52

/-- The bits without the sign say where a double is in the order. -/
theorem value_eq (x : Binary64) :
    let pattern := x.bits.toNat % 2 ^ 63
    let negative : Bool := 2 ^ 63 ≤ x.bits.toNat
    x.value =
      if pattern < infinitePlace then .finite negative (magnitudeOf pattern)
      else if pattern = infinitePlace then .infinite negative
      else .nan := by
  intro pattern negative
  have bounded : x.bits.toNat < 2 ^ 64 := x.bits.toNat_lt
  have fraction : x.bits.toNat % 2 ^ 52 = pattern % 2 ^ 52 := by omega
  have exponent : x.bits.toNat / 2 ^ 52 % 2048 = pattern / 2 ^ 52 := by omega
  unfold value
  rw [hiddenBit_eq, signBit_eq]
  dsimp only
  rw [fraction, exponent]
  by_cases finite : pattern < infinitePlace
  · have below : pattern / 2 ^ 52 < 2047 := by
      unfold infinitePlace at finite
      omega
    rw [if_neg below.ne, if_pos finite, magnitudeOf]
    by_cases subnormal : pattern < 2 ^ 52
    · rw [if_pos (by omega), if_pos subnormal, Nat.mod_eq_of_lt subnormal]
    · rw [if_neg (by omega), if_neg subnormal]
  · have top : pattern / 2 ^ 52 = 2047 := by
      unfold infinitePlace at finite
      omega
    have first : pattern % 2 ^ 52 = 0 ↔ pattern = infinitePlace := by
      unfold infinitePlace
      omega
    rw [if_pos top, if_neg finite]
    exact if_congr first rfl rfl

theorem value_ofNat (pattern : ℕ) (finite : pattern < infinitePlace) (negative : Bool) :
    value ⟨UInt64.ofNat (if negative then 2 ^ 63 + pattern else pattern)⟩ =
      .finite negative (magnitudeOf pattern) := by
  have bounded : pattern < 2 ^ 63 := finite.trans (by decide)
  have word : (UInt64.ofNat (if negative then 2 ^ 63 + pattern else pattern)).toNat =
      if negative then 2 ^ 63 + pattern else pattern := by
    rw [UInt64.toNat_ofNat', Nat.mod_eq_of_lt]
    split <;> omega
  have size : (if negative then 2 ^ 63 + pattern else pattern) % 2 ^ 63 = pattern := by
    split <;> omega
  have sign : decide (2 ^ 63 ≤ if negative then 2 ^ 63 + pattern else pattern) = negative := by
    cases negative
    · exact decide_eq_false (by simp only [Bool.false_eq_true, if_false]; omega)
    · exact decide_eq_true (by simp only [if_true]; omega)
  rw [value_eq]
  dsimp only
  rw [word, size, sign, if_pos finite]

/-- A pattern is read back as it was packed, and its last bit is that of the mantissa. -/
theorem toRat?_pack {x : Magnitude} (rounded : x.Rounded) (small : x.exponent ≤ 0)
    (negative : Bool) :
    (pack negative x).toRat? = some (signed negative x.toRat) ∧
      (pack negative x).bits.toNat % 2 = x.mantissa % 2 := by
  obtain ⟨mantissa_le, least_le, normal⟩ := rounded
  obtain ⟨m, e⟩ := x
  dsimp only at mantissa_le least_le normal small
  obtain ⟨biased, rfl⟩ : ∃ biased : ℕ, e = biased - 1074 := ⟨(e + 1074).toNat, by omega⟩
  have packed : pack negative ⟨m, biased - 1074⟩ = ⟨UInt64.ofNat
      (if negative then 2 ^ 63 + (biased * 2 ^ 52 + m) else biased * 2 ^ 52 + m)⟩ := by
    have shift : ((biased : ℤ) - 1074 + 1074).toNat = biased := by omega
    have pattern : (if m < 2 ^ 52 then m else min (2047 * 2 ^ 52) (biased * 2 ^ 52 + m)) =
        biased * 2 ^ 52 + m := by
      split <;> omega
    simp only [pack, hiddenBit_eq, signBit_eq, shift, pattern]
  have finite : biased * 2 ^ 52 + m < infinitePlace := by
    unfold infinitePlace
    omega
  have read := value_ofNat (biased * 2 ^ 52 + m) finite negative
  unfold magnitudeOf at read
  rw [packed]
  refine ⟨?_, ?_⟩
  · rw [toRat?, read]
    dsimp only
    rcases lt_or_ge m (2 ^ 52) with subnormal | normal
    · obtain rfl : biased = 0 := by omega
      rw [if_pos (by omega), Nat.zero_mul, Nat.zero_add]
      rfl
    · rw [if_neg (by omega)]
      rcases Nat.lt_or_eq_of_le mantissa_le with plain | rfl
      · have fraction : 2 ^ 52 + (biased * 2 ^ 52 + m) % 2 ^ 52 = m := by omega
        have exponent : (((biased * 2 ^ 52 + m) / 2 ^ 52 : ℕ) : ℤ) - 1075 = biased - 1074 := by
          omega
        rw [fraction, exponent]
      · -- A carried mantissa is read back as the least one of the next exponent.
        have fraction : 2 ^ 52 + (biased * 2 ^ 52 + 2 ^ 53) % 2 ^ 52 = 2 ^ 52 := by omega
        have exponent : (((biased * 2 ^ 52 + 2 ^ 53) / 2 ^ 52 : ℕ) : ℤ) - 1075 =
            (biased : ℤ) - 1074 + 1 := by omega
        have carried : Magnitude.toRat ⟨2 ^ 52, (biased : ℤ) - 1074 + 1⟩ =
            Magnitude.toRat ⟨2 ^ 53, (biased : ℤ) - 1074⟩ := by
          rw [Magnitude.toRat_eq, Magnitude.toRat_eq]
          dsimp only
          rw [zpow_add_one₀ (by norm_num)]
          push_cast
          ring
        rw [fraction, exponent, carried]
  · dsimp only
    rw [UInt64.toNat_ofNat']
    split <;> omega

/-! ### The nearest double -/

/-- `x` stands for `v`, no double is nearer to `q`, and if one that stands for another number is as
near, the last bit of `x` is zero. -/
structure IsNearest (q : ℚ) (x : Binary64) (v : ℚ) : Prop where
  value : x.toRat? = some v
  distance_le : ∀ (y : Binary64) (w : ℚ), y.toRat? = some w → |v - q| ≤ |w - q|
  even : ∀ (y : Binary64) (w : ℚ), y.toRat? = some w → |v - q| = |w - q| →
    w = v ∨ x.bits.toNat % 2 = 0

theorem signed_signed (negative : Bool) (q : ℚ) : signed negative (signed negative q) = q := by
  cases negative with
  | false => rfl
  | true => exact neg_neg q

theorem abs_sub_signed (negative : Bool) (w q : ℚ) :
    |w - signed negative q| = |signed negative w - q| := by
  cases negative with
  | false => rfl
  | true =>
    change |w - -q| = |-w - q|
    rw [← abs_neg, neg_sub, neg_sub_left, neg_add']

theorem exists_signed_mul (negative : Bool) {w : ℚ} {e : ℤ}
    (bits : ∃ k : ℤ, |k| < 2 ^ 53 ∧ w = k * 2 ^ e) :
    ∃ k : ℤ, |k| < 2 ^ 53 ∧ signed negative w = k * 2 ^ e := by
  obtain ⟨k, short, rfl⟩ := bits
  cases negative with
  | false => exact ⟨k, short, rfl⟩
  | true => exact ⟨-k, by rwa [abs_neg], by rw [signed, if_pos rfl, Int.cast_neg, neg_mul]⟩

/-- With either sign, the number that a double stands for is 53 bits times a power of two. -/
theorem signed_of_toRat? {x : Binary64} {v : ℚ} (stands : x.toRat? = some v) (mirror : Bool) :
    ∃ k e : ℤ, |k| < 2 ^ 53 ∧ -1074 ≤ e ∧ signed mirror v = k * 2 ^ e := by
  unfold toRat? at stands
  split at stands
  · next negative m finite =>
    cases stands
    have canonical := canonical_of_value finite
    have bits : |(m.mantissa : ℤ)| < 2 ^ 53 := by
      rw [Nat.abs_cast]
      exact_mod_cast canonical.mantissa_lt
    obtain ⟨k, short, same⟩ :=
      exists_signed_mul mirror (exists_signed_mul negative ⟨m.mantissa, bits, m.toRat_eq⟩)
    exact ⟨k, m.exponent, short, canonical.least_le, same⟩
  · cases stands

theorem exponent_nearest_le {n d : ℕ} (small : n < 2 ^ 52 * d) : (nearest n d).exponent ≤ 0 := by
  unfold nearest
  split
  · decide
  · next someN =>
    have order := binaryOrder_lt someN small
    dsimp only
    omega

/-- A quotient below `2 ^ 52` is packed as the double nearest to it. -/
theorem isNearest_pack {n d : ℕ} (small : n < 2 ^ 52 * d) (negative : Bool) :
    IsNearest (signed negative ((n : ℚ) / d)) (pack negative (nearest n d))
      (signed negative (nearest n d).toRat) := by
  have someD : d ≠ 0 := by omega
  obtain ⟨stands, last⟩ :=
    toRat?_pack (rounded_nearest n someD) (exponent_nearest_le small) negative
  -- The mirror image of a double is as far from the mirror image of the quotient.
  refine ⟨stands, fun y w other => ?_, fun y w other tie => ?_⟩
  · obtain ⟨k, e, bits, least, same⟩ := signed_of_toRat? other negative
    rw [abs_sub_signed, abs_sub_signed, signed_signed, same]
    exact (nearest_distance someD bits least).1
  · obtain ⟨k, e, bits, least, same⟩ := signed_of_toRat? other negative
    rw [abs_sub_signed, abs_sub_signed, signed_signed, same] at tie
    rw [last]
    refine ((nearest_distance someD bits least).2 tie).imp (fun equal => ?_) id
    rw [← equal, ← same, signed_signed]

theorem sum_le_of_nearer {q v w : ℚ} (lt : w < v) (near : |v - q| ≤ |w - q|) : v + w ≤ 2 * q := by
  rw [← sq_le_sq] at near
  nlinarith

theorem le_sum_of_nearer {q v w : ℚ} (lt : w < v) (near : |w - q| ≤ |v - q|) : 2 * q ≤ v + w := by
  rw [← sq_le_sq] at near
  nlinarith

/-- Rounding keeps the order. Ties play no part, since the two numbers differ. -/
theorem IsNearest.le {q r v w : ℚ} {x y : Binary64} (hx : IsNearest q x v) (hy : IsNearest r y w)
    (lt : q < r) : v ≤ w := by
  by_contra! reversed
  -- Each number lies on the far side of the midpoint of the two results.
  have above := sum_le_of_nearer reversed (hx.distance_le y w hy.value)
  have below := le_sum_of_nearer reversed (hy.distance_le x v hx.value)
  linarith

/-! ### Dropping the fraction -/

/-- What is left of a number when its fraction is dropped. -/
def truncate (q : ℚ) : ℤ := if 0 ≤ q then ⌊q⌋ else ⌈q⌉

theorem Magnitude.floor_eq (x : Magnitude) : (x.floor : ℤ) = ⌊x.toRat⌋ := by
  rw [toRat, Rat.floor_natCast_div_natCast, floor, Int.natCast_div]

theorem Magnitude.floor_le {x y : Magnitude} (le : x.toRat ≤ y.toRat) : x.floor ≤ y.floor := by
  have floors := Int.floor_le_floor le
  rw [← x.floor_eq, ← y.floor_eq] at floors
  exact_mod_cast floors

theorem truncate_signed (negative : Bool) (x : Magnitude) :
    truncate (signed negative x.toRat) = if negative then -(x.floor : ℤ) else x.floor := by
  have nonneg := x.toRat_nonneg
  rw [x.floor_eq, truncate]
  cases negative with
  | false => exact if_pos nonneg
  | true =>
    rw [signed, if_pos rfl, if_pos rfl]
    rcases nonneg.eq_or_lt with zero | positive
    · rw [← zero]
      rfl
    · rw [if_neg (by linarith), Int.ceil_neg]

end HybridStorage.Binary64
