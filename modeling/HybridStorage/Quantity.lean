import HybridStorage.Fault

/-!
# Readings

Powers, capacities and percentages are 32-bit signed integers. An operation on them is exact
arithmetic on `Int32.toInt` and one of two ways back: `Reading.saturate` stops at the nearer bound
and `Reading.exact` refuses what does not fit. Energies are 64-bit, with `Energy.exact`.
-/

namespace HybridStorage

/-- Electric power in W. A storage unit's power is positive while it discharges. -/
abbrev Watts := Int32

/-- Capacity or reserve in Wh. -/
abbrev WattHours := Int32

/-- State of charge in percent. -/
abbrev Percent := Int32

namespace Reading

def lowest : Int := -2147483648

def highest : Int := 2147483647

/-- The reading nearest to `n`. -/
def saturate (n : Int) : Int32 := Int32.ofInt (max lowest (min n highest))

/-- `n` itself, if a reading can hold it. -/
def exact (n : Int) : Checked Int32 :=
  if lowest ≤ n ∧ n ≤ highest then .ok (Int32.ofInt n) else .error .overflow

theorem toInt_ofInt {n : Int} (low : lowest ≤ n) (high : n ≤ highest) :
    (Int32.ofInt n).toInt = n := by
  unfold lowest at low; unfold highest at high
  exact Int32.toInt_ofInt_of_le (by simpa using low) (by simp; omega)

theorem lowest_le_toInt (a : Int32) : lowest ≤ a.toInt := by
  have := a.le_toInt; unfold lowest; simpa using this

theorem toInt_le_highest (a : Int32) : a.toInt ≤ highest := by
  have := a.toInt_lt; unfold highest; simp at this; omega

theorem toInt_saturate (n : Int) : (saturate n).toInt = max lowest (min n highest) := by
  unfold saturate
  apply toInt_ofInt <;> (unfold lowest highest; omega)

theorem exact_eq_ok_iff {n : Int} {a : Int32} : exact n = .ok a ↔ a.toInt = n := by
  unfold exact
  constructor
  · intro h
    split at h
    · next bounds => cases h; exact toInt_ofInt bounds.1 bounds.2
    · cases h
  · rintro rfl
    rw [if_pos ⟨lowest_le_toInt a, toInt_le_highest a⟩, Int32.ofInt_toInt]

def satAdd (a b : Int32) : Int32 := saturate (a.toInt + b.toInt)

def satSub (a b : Int32) : Int32 := saturate (a.toInt - b.toInt)

def satNeg (a : Int32) : Int32 := saturate (-a.toInt)

def satAbs (a : Int32) : Int32 := saturate a.toInt.natAbs

def sub (a b : Int32) : Checked Int32 := exact (a.toInt - b.toInt)

end Reading

/-- Energy as a 64-bit count, in a unit that the context names. -/
abbrev Energy := Int

/-- `n` itself, if 64 bits can hold it. -/
def Energy.exact (n : Int) : Checked Energy :=
  if -9223372036854775808 ≤ n ∧ n ≤ 9223372036854775807 then .ok n else .error .overflow

theorem Energy.exact_eq_ok_iff {n e : Int} :
    Energy.exact n = .ok e ↔ e = n ∧ -9223372036854775808 ≤ n ∧ n ≤ 9223372036854775807 := by
  unfold Energy.exact
  split
  · next bounds => simp [bounds, eq_comm]
  · next bounds => simp [bounds]

end HybridStorage
