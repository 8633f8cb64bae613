import HybridStorage.Dispatch.Area
import HybridStorage.Proofs.Readings
import HybridStorage.Proofs.Results
import HybridStorage.Storage.Scripted
import Mathlib.Data.Rat.Cast.Order
import Mathlib.Tactic.NormNum

/-!
# Areas from readings

A unit that reports a capacity and a charge has a charge area, whatever the two numbers are: nothing
on the way to it leaves 64 bits. The area does not get more urgent with more charge, nor less urgent
with a higher reserve, although the stored energy is cut to whole Wh first. RED begins exactly below
half the reserve.
-/

namespace HybridStorage

theorem Reading.natAbs_mul_toInt_le (a b : Int32) :
    (a.toInt * b.toInt).natAbs ≤ 2147483648 * 2147483648 := by
  have first := fits_iff.mp (fits_toInt a)
  have second := fits_iff.mp (fits_toInt b)
  rw [Int.natAbs_mul]
  apply Nat.mul_le_mul <;> omega

namespace StorageUnit

variable {α : Type} [StorageUnit α] {u : α} {size : WattHours} {level : Percent} {stop : Stop}

/-! ### Units that report and units that do not -/

structure Reports (u : α) (size : WattHours) (level : Percent) : Prop where
  size : capacity u = some size
  level : charge u = some level

/-- Why the stored energy of a unit is unknown. The capacity is looked at first. -/
inductive Unknown (u : α) : Stop → Prop where
  | capacity (silent : capacity u = none) :
    Unknown u (.abort (.undefinedValue (id u) .capacity))
  | charge {size : WattHours} (told : capacity u = some size) (silent : charge u = none) :
    Unknown u (.abort (.undefinedValue (id u) .stateOfCharge))

theorem reports_or_unknown (u : α) :
    (∃ size level, Reports u size level) ∨ ∃ stop, Unknown u stop := by
  cases told : capacity u with
  | none => exact .inr ⟨_, .capacity told⟩
  | some size =>
    cases toldToo : charge u with
    | none => exact .inr ⟨_, .charge told toldToo⟩
    | some level => exact .inl ⟨size, level, told, toldToo⟩

theorem unknown_iff : (∃ stop, Unknown u stop) ↔ capacity u = none ∨ charge u = none := by
  constructor
  · rintro ⟨stop, unknown⟩
    cases unknown with
    | capacity silent => exact .inl silent
    | charge told silent => exact .inr silent
  · intro silent
    apply (reports_or_unknown u).resolve_left
    rintro ⟨size, level, told, toldToo⟩
    simp [told, toldToo] at silent

/-- What needs the capacity and the charge and nothing else fails exactly without them. -/
theorem eq_error_iff_unknown {β : Type} {reading : Except Stop β}
    (known : ∀ size level, Reports u size level → ∃ b, reading = .ok b)
    (unknown : ∀ stop, Unknown u stop → reading = .error stop) :
    reading = .error stop ↔ Unknown u stop := by
  constructor
  · intro failed
    rcases reports_or_unknown u with ⟨size, level, reports⟩ | ⟨reason, silent⟩
    · obtain ⟨b, read⟩ := known size level reports
      cases read.symm.trans failed
    · cases (unknown reason silent).symm.trans failed
      exact silent
  · exact unknown stop

/-! ### Stored energy -/

/-- The stored energy at some capacity and charge, in whole Wh towards zero. -/
def energyAt (size : WattHours) (level : Percent) : Energy := (size.toInt * level.toInt).tdiv 100

theorem energyAt_mono {higher : Percent} (nonneg : 0 ≤ size) (more : level ≤ higher) :
    energyAt size level ≤ energyAt size higher := by
  have factor : 0 ≤ size.toInt := by simpa using Int32.le_iff_toInt_le.mp nonneg
  have product : size.toInt * level.toInt ≤ size.toInt * higher.toInt :=
    Int.mul_le_mul_of_nonneg_left (Int32.le_iff_toInt_le.mp more) factor
  exact Int.tdiv_le_tdiv (by decide) product

theorem fits_twice_energyAt (size : WattHours) (level : Percent) :
    Energy.Fits (2 * energyAt size level) := by
  have product := Reading.natAbs_mul_toInt_le size level
  have cut : (energyAt size level).natAbs = (size.toInt * level.toInt).natAbs / 100 :=
    Int.natAbs_tdiv _ _
  unfold Energy.Fits
  omega

theorem storedEnergy_of_reports (reports : Reports u size level) :
    storedEnergy u = .ok (energyAt size level) := by
  have fits : Energy.Fits (size.toInt * level.toInt) := by
    have product := Reading.natAbs_mul_toInt_le size level
    unfold Energy.Fits
    omega
  rw [storedEnergy, requireCapacity, requireCharge, reports.size, reports.level]
  change (do
    let product ← (Energy.exact (size.toInt * level.toInt)).orStop
    pure (product.tdiv 100)) = _
  rw [Energy.exact_ok fits]
  rfl

theorem storedEnergy_of_unknown (unknown : Unknown u stop) : storedEnergy u = .error stop := by
  rw [storedEnergy, requireCapacity, requireCharge]
  cases unknown with
  | capacity silent =>
    rw [silent]
    rfl
  | charge told silent =>
    rw [told, silent]
    rfl

end StorageUnit

namespace ChargeArea

open StorageUnit

variable {α : Type} [StorageUnit α] {u : α} {size : WattHours} {level : Percent} {stop : Stop}
  {stored reserve capacity : Int}

/-! ### Areas of a stored energy -/

/-- The area of a stored energy whose double fits 64 bits. -/
def between (stored reserve capacity : Int) : ChargeArea :=
  if 2 * stored < reserve then .red else if 2 * stored ≤ capacity then .orange else .green

/-- More energy and a lower reserve make an area less urgent, and on which side of the capacity the
reserve lies makes no difference to that. -/
theorem between_mono {more lower : Int} (energy : stored ≤ more) (reserves : lower ≤ reserve) :
    between stored reserve capacity ≤ between more lower capacity := by
  change (between stored reserve capacity).index ≤ (between more lower capacity).index
  unfold between
  split
  · exact Nat.zero_le _
  · -- The first is not RED, so neither is the second, and only the capacity is left to decide.
    rw [if_neg (by omega : ¬2 * more < lower)]
    split
    · split <;> decide
    · rw [if_neg (by omega)]

example : red ≤ orange ∧ orange ≤ green ∧ ¬orange ≤ red ∧ ¬green ≤ orange := by decide

theorem between_eq_red_iff :
    between stored reserve capacity = .red ↔ (stored : ℚ) < reserve / 2 := by
  have half : (stored : ℚ) < reserve / 2 ↔ stored * 2 < reserve := by
    rw [lt_div_iff₀ two_pos]
    norm_cast
  rw [half]
  unfold between
  split
  · next below => exact iff_of_true rfl (by omega)
  · next above =>
    refine iff_of_false ?_ (by omega)
    split <;> decide

theorem classify_eq_ok_iff {area : ChargeArea} : classify stored reserve capacity = .ok area ↔
    Energy.Fits (2 * stored) ∧ between stored reserve capacity = area := by
  unfold classify
  rw [bind_eq_ok_iff]
  constructor
  · rintro ⟨twice, doubled, classified⟩
    obtain ⟨rfl, fits⟩ := Energy.exact_eq_ok_iff.mp doubled
    exact ⟨fits, Except.ok.inj classified⟩
  · rintro ⟨fits, rfl⟩
    exact ⟨2 * stored, Energy.exact_ok fits, rfl⟩

/-! ### Areas of units -/

theorem ofUnit_of_reports (reports : Reports u size level) (reserve : Energy) :
    ofUnit reserve u = .ok (between (energyAt size level) reserve size.toInt) := by
  have classified : classify (energyAt size level) reserve size.toInt = .ok _ :=
    classify_eq_ok_iff.mpr ⟨fits_twice_energyAt size level, rfl⟩
  rw [ofUnit, requireCapacity, reports.size, storedEnergy_of_reports reports]
  exact congrArg Checked.orStop classified

theorem ofUnit_of_unknown (unknown : Unknown u stop) (reserve : Energy) :
    ofUnit reserve u = .error stop := by
  rw [ofUnit, storedEnergy_of_unknown unknown, requireCapacity]
  cases unknown with
  | capacity silent =>
    rw [silent]
    rfl
  | charge told silent =>
    rw [told]
    rfl

/-- A unit has no area exactly if its capacity or its charge is undefined, and then the capacity is
named first. If it has both there is an area, however large or negative the readings are. With more
charge at a capacity that is not negative it is not more urgent, with a higher reserve not less, and
it is RED exactly below half the reserve. -/
theorem follows_readings (reserve : Energy) (u : α) :
    ((∃ stop, ofUnit reserve u = .error stop) ↔
      StorageUnit.capacity u = none ∨ charge u = none) ∧
    (∀ stop, ofUnit reserve u = .error stop ↔ Unknown u stop) ∧
    (∀ stop, storedEnergy u = .error stop ↔ Unknown u stop) ∧
    (∀ size level, Reports u size level → ∃ area, ofUnit reserve u = .ok area ∧
      (0 ≤ size → ∀ (v : α) (higher : Percent), Reports v size higher → level ≤ higher →
        ∃ after, ofUnit reserve v = .ok after ∧ area ≤ after) ∧
      ∀ more, reserve ≤ more → ∃ after, ofUnit more u = .ok after ∧ after ≤ area) ∧
    (∀ stored, storedEnergy u = .ok stored →
      (ofUnit reserve u = .ok .red ↔ (stored : ℚ) < reserve / 2)) ∧
    ∀ stored capacity : Energy, classify stored reserve capacity = .ok .red ↔
      Energy.Fits (2 * stored) ∧ (stored : ℚ) < reserve / 2 := by
  have fails (stop : Stop) : ofUnit reserve u = .error stop ↔ Unknown u stop := by
    apply eq_error_iff_unknown
    · intro size level reports
      exact ⟨_, ofUnit_of_reports reports reserve⟩
    · intro stop unknown
      exact ofUnit_of_unknown unknown reserve
  have unread (stop : Stop) : storedEnergy u = .error stop ↔ Unknown u stop := by
    apply eq_error_iff_unknown
    · intro size level reports
      exact ⟨_, storedEnergy_of_reports reports⟩
    · intro stop unknown
      exact storedEnergy_of_unknown unknown
  refine ⟨?_, fails, unread, ?_, ?_, ?_⟩
  · rw [← unknown_iff]
    exact exists_congr fails
  · intro size level reports
    refine ⟨_, ofUnit_of_reports reports reserve, ?_, ?_⟩
    · intro nonneg v higher others more
      have energy := energyAt_mono nonneg more
      exact ⟨_, ofUnit_of_reports others reserve, between_mono energy (Int.le_refl _)⟩
    · intro more above
      exact ⟨_, ofUnit_of_reports reports more, between_mono (Int.le_refl _) above⟩
  · intro stored read
    rcases reports_or_unknown u with ⟨size, level, reports⟩ | ⟨stop, unknown⟩
    · cases (storedEnergy_of_reports reports).symm.trans read
      rw [ofUnit_of_reports reports, Except.ok.injEq, between_eq_red_iff]
    · cases ((unread stop).mpr unknown).symm.trans read
  · intro stored capacity
    rw [classify_eq_ok_iff, between_eq_red_iff]

def telling (capacity : Option WattHours) (charge : Option Percent) : ScriptedUnit where
  id := "ess0"
  gridMode := .onGrid
  charge
  capacity
  maxApparent := none
  envelope := .closed
  rejectsActive := none
  rejectsReactive := none
  setPoints := {}

/-- Half a Wh below empty counts as empty: without a reserve that is ORANGE, with any it is RED. -/
theorem follows_readings_overdrawn :
    let u := telling (some 50) (some (-1))
    ofUnit 0 u = .ok .orange ∧ ofUnit 1 u = .ok .red ∧
      (∃ after, ofUnit 0 (telling (some 50) (some 100)) = .ok after ∧ .orange ≤ after) ∧
      (∃ after, ofUnit 1 u = .ok after ∧ after ≤ .orange) ∧
      ofUnit 0 (telling none none) = .error (.abort (.undefinedValue "ess0" .capacity)) := by
  intro u
  have orange : ofUnit 0 u = .ok .orange := rfl
  obtain ⟨-, -, -, areas, -, -⟩ := follows_readings 0 u
  obtain ⟨area, read, charges, reserves⟩ := areas 50 (-1) ⟨rfl, rfl⟩
  cases read.symm.trans orange
  obtain ⟨-, -, -, -, half, -⟩ := follows_readings 1 u
  have red : ofUnit 1 u = .ok .red := (half 0 rfl).mpr (by norm_num)
  obtain ⟨-, fails, -⟩ := follows_readings 0 (telling none none)
  exact ⟨orange, red, charges (by decide) _ 100 ⟨rfl, rfl⟩ (by decide), reserves 1 (by decide),
    (fails _).mpr (.capacity rfl)⟩

end ChargeArea

end HybridStorage
