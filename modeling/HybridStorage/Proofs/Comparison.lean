import HybridStorage.Binary64.Order
import HybridStorage.Proofs.Rounding
import Mathlib.Order.Monotone.Odd

/-!
# Comparing doubles

Patterns without a sign come in the order of the numbers they stand for. So the place of a double in
the order tells its number, and comparing two doubles is comparing two numbers.
-/

namespace HybridStorage.Binary64

theorem canonical_magnitudeOf (pattern : ℕ) : (magnitudeOf pattern).Canonical := by
  unfold magnitudeOf
  split
  · constructor <;> dsimp only <;> omega
  · constructor <;> dsimp only <;> omega

/-- The next pattern has a greater mantissa, or the least one for the next exponent. -/
theorem magnitudeOf_lt {p q : ℕ} (lt : p < q) :
    (magnitudeOf p).exponent < (magnitudeOf q).exponent ∨
      (magnitudeOf p).exponent = (magnitudeOf q).exponent ∧
        (magnitudeOf p).mantissa < (magnitudeOf q).mantissa := by
  unfold magnitudeOf
  split <;> split <;> dsimp only <;> omega

theorem toRat_magnitudeOf_lt {p q : ℕ} (lt : p < q) :
    (magnitudeOf p).toRat < (magnitudeOf q).toRat := by
  rcases magnitudeOf_lt lt with exponent | ⟨exponent, mantissa⟩
  · exact (canonical_magnitudeOf p).toRat_lt (canonical_magnitudeOf q) exponent
  · rw [Magnitude.toRat_eq, Magnitude.toRat_eq, exponent]
    exact mul_lt_mul_of_pos_right (by exact_mod_cast mantissa) (two_zpow_pos _)

/-- The number at a place in the order of the doubles. -/
def numberAt (place : ℤ) : ℚ := signed (place < 0) (magnitudeOf place.natAbs).toRat

theorem numberAt_zero : numberAt 0 = 0 := Magnitude.toRat_eq_zero rfl

theorem numberAt_natCast (pattern : ℕ) : numberAt pattern = (magnitudeOf pattern).toRat := by
  rw [numberAt, decide_eq_false (by omega), Int.natAbs_natCast]
  rfl

theorem numberAt_neg (place : ℤ) : numberAt (-place) = -numberAt place := by
  unfold numberAt
  rw [Int.natAbs_neg]
  rcases lt_trichotomy place 0 with negative | rfl | positive
  · rw [decide_eq_false (by omega), decide_eq_true negative]
    exact (neg_neg _).symm
  · change numberAt 0 = -numberAt 0
    rw [numberAt_zero, neg_zero]
  · rw [decide_eq_true (by omega), decide_eq_false (by omega)]
    rfl

theorem numberAt_signed (negative : Prop) [Decidable negative] (pattern : ℕ) :
    numberAt (if negative then -(pattern : ℤ) else pattern) =
      signed negative (magnitudeOf pattern).toRat := by
  split
  · next yes =>
    rw [numberAt_neg, numberAt_natCast, decide_eq_true yes]
    rfl
  · next no =>
    rw [numberAt_natCast, decide_eq_false no]
    rfl

theorem numberAt_lt_iff {m n : ℤ} : numberAt m < numberAt n ↔ m < n := by
  have increasing : StrictMono numberAt := by
    refine strictMono_of_odd_strictMonoOn_nonneg numberAt_neg ?_
    intro m m_nonneg n n_nonneg lt
    obtain ⟨p, rfl⟩ := Int.eq_ofNat_of_zero_le m_nonneg
    obtain ⟨q, rfl⟩ := Int.eq_ofNat_of_zero_le n_nonneg
    rw [numberAt_natCast, numberAt_natCast]
    exact toRat_magnitudeOf_lt (by omega)
  exact increasing.lt_iff_lt

theorem numberAt_le_iff {m n : ℤ} : numberAt m ≤ numberAt n ↔ m ≤ n := by
  rw [← not_lt, numberAt_lt_iff, not_lt]

/-- A double stands for the number at its place, unless it is an infinity or a NaN. -/
theorem toRat?_eq (x : Binary64) :
    x.toRat? = (x.rank?.filter fun place => place.natAbs < infinitePlace).map numberAt := by
  have read := value_eq x
  have number := numberAt_signed (2 ^ 63 ≤ x.bits.toNat) (x.bits.toNat % 2 ^ 63)
  have size : (if 2 ^ 63 ≤ x.bits.toNat then -((x.bits.toNat % 2 ^ 63 : ℕ) : ℤ)
      else (x.bits.toNat % 2 ^ 63 : ℕ)).natAbs = x.bits.toNat % 2 ^ 63 := by
    split
    · exact Int.natAbs_neg _
    · rfl
  unfold toRat? rank? isNaN
  rw [signBit_eq]
  dsimp only at read ⊢
  generalize (if 2 ^ 63 ≤ x.bits.toNat then -((x.bits.toNat % 2 ^ 63 : ℕ) : ℤ)
    else (x.bits.toNat % 2 ^ 63 : ℕ)) = place at number size ⊢
  generalize x.bits.toNat % 2 ^ 63 = pattern at read number size
  split at read
  · next finite =>
    rw [read]
    simp [size, finite, number]
  · next notFinite =>
    split at read
    · rw [read]
      simp [size, Nat.le_of_not_lt notFinite]
    · rw [read]
      rfl

variable {a b x low high : Binary64} {v w l h : ℚ}

theorem rank?_of_toRat? (number : x.toRat? = some v) :
    ∃ place, x.rank? = some place ∧ place.natAbs < infinitePlace ∧ numberAt place = v := by
  rw [toRat?_eq] at number
  obtain ⟨place, found, same⟩ := Option.map_eq_some_iff.mp number
  obtain ⟨found, finite⟩ := Option.filter_eq_some_iff.mp found
  exact ⟨place, found, of_decide_eq_true finite, same⟩

theorem toRat?_of_rank? {place : ℤ} (found : x.rank? = some place)
    (finite : place.natAbs < infinitePlace) : x.toRat? = some (numberAt place) := by
  rw [toRat?_eq, found]
  simp [finite]

theorem le_iff (ha : a.toRat? = some v) (hb : b.toRat? = some w) : a.le b = true ↔ v ≤ w := by
  obtain ⟨m, foundA, -, rfl⟩ := rank?_of_toRat? ha
  obtain ⟨n, foundB, -, rfl⟩ := rank?_of_toRat? hb
  rw [le, compareBy, foundA, foundB, numberAt_le_iff]
  exact decide_eq_true_iff

theorem lt_iff (ha : a.toRat? = some v) (hb : b.toRat? = some w) : a.lt b = true ↔ v < w := by
  obtain ⟨m, foundA, -, rfl⟩ := rank?_of_toRat? ha
  obtain ⟨n, foundB, -, rfl⟩ := rank?_of_toRat? hb
  rw [lt, compareBy, foundA, foundB, numberAt_lt_iff]
  exact decide_eq_true_iff

/-- What lies between two numbers is a number, neither an infinity nor a NaN. -/
theorem within_iff (hl : low.toRat? = some l) (hh : high.toRat? = some h) :
    within low high x = true ↔ ∃ v, x.toRat? = some v ∧ l ≤ v ∧ v ≤ h := by
  constructor
  · intro inside
    obtain ⟨aboveLow, belowHigh⟩ := Bool.and_eq_true_iff.mp inside
    obtain ⟨m, foundLow, finiteLow, -⟩ := rank?_of_toRat? hl
    obtain ⟨n, foundHigh, finiteHigh, -⟩ := rank?_of_toRat? hh
    cases found : x.rank? with
    | none =>
      rw [le, compareBy, foundLow, found] at aboveLow
      cases aboveLow
    | some place =>
      have number : x.toRat? = some (numberAt place) := by
        rw [le, compareBy, foundLow, found] at aboveLow
        rw [le, compareBy, found, foundHigh] at belowHigh
        have above : m ≤ place := of_decide_eq_true aboveLow
        have below : place ≤ n := of_decide_eq_true belowHigh
        exact toRat?_of_rank? found (by omega)
      exact ⟨numberAt place, number, (le_iff hl number).mp aboveLow,
        (le_iff number hh).mp belowHigh⟩
  · rintro ⟨v, number, above, below⟩
    exact Bool.and_eq_true_iff.mpr ⟨(le_iff hl number).mpr above, (le_iff number hh).mpr below⟩

end HybridStorage.Binary64
