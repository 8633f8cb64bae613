import HybridStorage.Quantity

/-!
# Readings as integers

Every operation on readings moves to `Int32.toInt`, where the bounds of the dispatch are decided by
linear arithmetic.
-/

namespace HybridStorage

theorem toInt_min (a b : Int32) : (min a b).toInt = min a.toInt b.toInt := by
  by_cases le : a ≤ b
  · have le' := Int32.le_iff_toInt_le.mp le
    rw [show min a b = a from if_pos le]
    omega
  · have lt := Int32.lt_iff_toInt_lt.mp (Int32.not_le.mp le)
    rw [show min a b = b from if_neg le]
    omega

theorem toInt_max (a b : Int32) : (max a b).toInt = max a.toInt b.toInt := by
  by_cases le : a ≤ b
  · have le' := Int32.le_iff_toInt_le.mp le
    rw [show max a b = b from if_pos le]
    omega
  · have lt := Int32.lt_iff_toInt_lt.mp (Int32.not_le.mp le)
    rw [show max a b = a from if_neg le]
    omega

namespace Reading

def Fits (n : Int) : Prop := lowest ≤ n ∧ n ≤ highest

theorem fits_iff {n : Int} : Fits n ↔ -2147483648 ≤ n ∧ n ≤ 2147483647 := Iff.rfl

theorem fits_toInt (a : Int32) : Fits a.toInt := ⟨lowest_le_toInt a, toInt_le_highest a⟩

theorem toInt_saturate_of_fits {n : Int} (fits : Fits n) : (saturate n).toInt = n := by
  obtain ⟨low, high⟩ := fits
  rw [toInt_saturate]
  omega

theorem toInt_satAdd (a b : Int32) :
    (satAdd a b).toInt = max lowest (min (a.toInt + b.toInt) highest) := toInt_saturate _

theorem toInt_satSub (a b : Int32) :
    (satSub a b).toInt = max lowest (min (a.toInt - b.toInt) highest) := toInt_saturate _

theorem toInt_satNeg_of_nonneg {a : Int32} (nonneg : 0 ≤ a.toInt) :
    (satNeg a).toInt = -a.toInt := by
  have fits := fits_toInt a
  apply toInt_saturate_of_fits
  rw [fits_iff] at fits ⊢
  omega

theorem sub_eq_ok_iff {a b c : Int32} : sub a b = .ok c ↔ c.toInt = a.toInt - b.toInt :=
  exact_eq_ok_iff

theorem sub_ok {a b : Int32} (fits : Fits (a.toInt - b.toInt)) : ∃ c, sub a b = .ok c :=
  ⟨_, sub_eq_ok_iff.mpr (toInt_saturate_of_fits fits)⟩

/-- A difference that does not fit is all that can go wrong with one. -/
theorem fault_of_sub {a b : Int32} {fault : Fault} (h : sub a b = .error fault) :
    fault = .overflow := by
  unfold sub exact at h
  split at h
  · cases h
  · exact (Except.error.inj h).symm

end Reading

def Energy.Fits (n : Int) : Prop := -9223372036854775808 ≤ n ∧ n ≤ 9223372036854775807

theorem Energy.exact_ok {n : Int} (fits : Fits n) : Energy.exact n = .ok n :=
  Energy.exact_eq_ok_iff.mpr ⟨rfl, fits⟩

end HybridStorage
