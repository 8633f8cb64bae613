import HybridStorage.Proofs.Areas
import HybridStorage.Proofs.ChargeBounds
import HybridStorage.Proofs.Cycle
import HybridStorage.Proofs.GridTarget
import HybridStorage.Proofs.Shares

/-!
# Requests that fit

A control cycle over batteries reads them without a fault. What it asks of the support unit fits a
reading, but for one case: the main unit is asked for nothing and still discharges, since it cannot
ramp down to zero, and what both are to take is near the lowest reading. `deliver_ok_iff` says so,
and `Controller.run_ok` gives room enough for that case.
-/

namespace HybridStorage

namespace Battery

variable {b : Battery}

/-- The stored energy in Wh that the readings tell. -/
def estimate (b : Battery) : Int := (b.parameters.capacity.toInt * b.charge.toInt).tdiv 100

theorem natAbs_product_le (bounded : b.Bounded) :
    (b.parameters.capacity.toInt * b.charge.toInt).natAbs ≤ 2147483648 * 100 := by
  obtain ⟨low, high⟩ := Reading.fits_iff.mp (Reading.fits_toInt b.parameters.capacity)
  have empty := bounded.charge_nonneg
  have full := bounded.charge_le
  rw [Int.natAbs_mul]
  exact Nat.mul_le_mul (by omega) (by omega)

theorem storedEnergy_eq (bounded : b.Bounded) :
    StorageUnit.storedEnergy b = .ok b.estimate := by
  have size := natAbs_product_le bounded
  have fits : Energy.Fits (b.parameters.capacity.toInt * b.charge.toInt) := by
    unfold Energy.Fits
    omega
  change (do
    let product ← (Energy.exact (b.parameters.capacity.toInt * b.charge.toInt)).orStop
    pure (product.tdiv 100)) = _
  rw [Energy.exact_ok fits]
  rfl

theorem storedEnergy_ok (bounded : b.Bounded) : ∃ stored : Int,
    StorageUnit.storedEnergy b = .ok stored ∧ stored.natAbs ≤ 2147483648 := by
  refine ⟨b.estimate, storedEnergy_eq bounded, ?_⟩
  rw [estimate, Int.natAbs_tdiv]
  exact Nat.div_le_of_le_mul (natAbs_product_le bounded)

theorem area_ok (b : Battery) (reserve : Energy) :
    ∃ area, ChargeArea.ofUnit reserve b = .ok area :=
  ⟨_, ChargeArea.ofUnit_of_reports ⟨rfl, rfl⟩ reserve⟩

/-- A battery grants a power on the side of the request. -/
theorem grant_side (ordered : b.envelope.Ordered) (now : Instant) (request : Watts) :
    (0 ≤ request.toInt → 0 ≤ (b.grant now request).1.toInt) ∧
      (request.toInt < 0 → (b.grant now request).1.toInt ≤ 0) := by
  unfold grant
  split
  · exact ⟨fun _ => Int.le_refl 0, fun _ => Int.le_refl 0⟩
  · obtain ⟨low, high⟩ := ordered.clamp_bounds request
    constructor
    · intro nonneg
      rw [PowerEnvelope.side_of_nonneg _ nonneg] at low
      exact Int.le_trans ordered.discharge_nonneg low
    · intro negative
      rw [PowerEnvelope.side_of_neg _ negative] at high
      exact Int.le_trans high ordered.charge_nonpos

/-- Asked for nothing, a battery discharges no more than it must. -/
theorem grant_zero (ordered : b.envelope.Ordered) (now : Instant) :
    (b.grant now 0).1 = b.envelope.discharge.lower := by
  have nonneg := ordered.discharge_nonneg
  have below := ordered.discharge
  have zero : 0 ≤ (0 : Watts).toInt := by decide
  rw [grant, if_neg (by simp)]
  apply Int32.toInt_inj.mp
  rw [PowerEnvelope.clamp_eq, PowerEnvelope.side_of_nonneg _ zero, PowerRange.toInt_clamp,
    Int32.toInt_zero]
  omega

theorem ordered_onCycle (b : Battery) (now : Instant) : (b.onCycle now).envelope.Ordered :=
  PowerEnvelope.ordered_compute _ _ _ _

theorem leastDischarge_onCycle (b : Battery) (now : Instant) :
    (b.onCycle now).envelope.discharge.lower.toInt ≤
      (b.onCycle now).parameters.limits.discharge.toInt := by
  have ordered := (b.ordered_onCycle now).discharge
  have nonneg := b.parameters.limits.discharge_nonneg
  rw [envelope_onCycle] at ordered ⊢
  cases ready : (b.onCycle now).readiness.isReady with
  | true =>
    rw [ready] at ordered
    exact Int.le_trans ordered (PowerEnvelope.ramped_le_discharge _ _ _)
  | false => exact nonneg

end Battery

namespace Controller

/-- Batteries can be read, so that only an unknown consumption keeps a run from a snapshot. -/
theorem takeSnapshot_of_batteries (c : Controller) {main support : Battery}
    (mainBounded : main.Bounded) (supportBounded : support.Bounded) (mode : GridMode)
    (gridPower : Option Watts) (sum : Aggregates) : ∃ mainArea supportArea stored,
      c.takeSnapshot main support mode gridPower sum =
        sum.consumption.elim (.error (.abort (.undefinedValue "sum" .consumption)))
          fun consumption => .ok ⟨mode, gridPower, mainArea, supportArea, stored, consumption⟩ := by
  obtain ⟨mainArea, mainRead⟩ := Battery.area_ok main c.settings.minimumEnergy.toInt
  obtain ⟨supportArea, supportRead⟩ := Battery.area_ok support c.settings.minimumEnergy.toInt
  obtain ⟨mainStored, mainEnergy, mainSize⟩ := Battery.storedEnergy_ok mainBounded
  obtain ⟨supportStored, supportEnergy, supportSize⟩ := Battery.storedEnergy_ok supportBounded
  have fits : Energy.Fits (mainStored + supportStored) := by
    unfold Energy.Fits
    omega
  have stored := Energy.exact_ok fits
  refine ⟨mainArea, supportArea, mainStored + supportStored, ?_⟩
  simp only [takeSnapshot, mainRead, supportRead, mainEnergy, supportEnergy, bind, Except.bind,
    stored, Checked.orStop]
  cases sum.consumption with
  | none => rfl
  | some consumption => rfl

theorem takeSnapshot_ok (c : Controller) {main support : Battery} (mainBounded : main.Bounded)
    (supportBounded : support.Bounded) (mode : GridMode) (gridPower : Option Watts)
    {sum : Aggregates} {net : Watts} (known : sum.consumption = some net) :
    ∃ s, c.takeSnapshot main support mode gridPower sum = .ok s := by
  obtain ⟨_, _, _, taken⟩ :=
    c.takeSnapshot_of_batteries mainBounded supportBounded mode gridPower sum
  rw [known] at taken
  exact ⟨_, taken⟩

/-- What the main unit leaves fits a reading, but where it is asked for nothing and discharges. -/
theorem deliver_ok_iff {p : Plan} {main : Battery} (ordered : main.envelope.Ordered) (now : Instant)
    (support : Battery) : (∃ d granted, Delivers p now main support d granted) ↔
      ¬(p.share.ofRequired p.required = 0 ∧
        p.required.toInt - main.envelope.discharge.lower.toInt < Reading.lowest) := by
  obtain ⟨mainRequest, supportRequest, split, part⟩ := p.share.split_ok p.required
  have unasked (none : p.share.ofRequired p.required = 0) :
      (main.grant now mainRequest).1 = main.envelope.discharge.lower := by
    obtain rfl : mainRequest = 0 := Int32.toInt_inj.mp (part.trans none)
    exact Battery.grant_zero ordered now
  constructor
  · rintro ⟨d, granted, splits, grants, rest, left, -⟩ ⟨none, beyond⟩
    have same := congrArg Prod.fst (Except.ok.inj (splits.symm.trans split))
    have setPoint : (main.grant now d.mainRequest).1 = d.mainSetPoint := congrArg Prod.fst grants
    change d.mainRequest = mainRequest at same
    rw [same, unasked none] at setPoint
    have difference := Reading.sub_eq_ok_iff.mp left
    rw [← setPoint] at difference
    have low := Reading.lowest_le_toInt rest
    omega
  · intro room
    have fits : Reading.Fits (p.required.toInt - (main.grant now mainRequest).1.toInt) := by
      obtain ⟨discharges, charges⟩ := Battery.grant_side ordered now mainRequest
      obtain ⟨above, below⟩ := p.share.ofRequired_bounds p.required
      have requiredFits := Reading.fits_toInt p.required
      have grantFits := Reading.fits_toInt (main.grant now mainRequest).1
      unfold Reading.lowest at room
      rw [Reading.fits_iff] at requiredFits grantFits ⊢
      by_cases none : p.share.ofRequired p.required = 0
      · rw [unasked none] at grantFits discharges ⊢
        omega
      · omega
    obtain ⟨rest, left⟩ := Reading.sub_ok fits
    exact ⟨⟨mainRequest, supportRequest, _, _⟩, (_, _), split, rfl, rest, left, rfl⟩

/-- A run over batteries does not fault if whatever it plans can be asked of them. -/
theorem run_ok_of_delivers {c : Controller} {disk : Disk} {s : Site} {sum : Aggregates}
    {now : Instant} (bounded : ∀ id b, s.unit? id = some b → b.Bounded)
    (delivers : ∀ main support snapshot, Reads c s sum main support snapshot →
      ∃ d granted, Delivers (c.plan disk main sum now snapshot).1 now main support d granted) :
    ∃ ran, c.run disk s sum now = .ok ran := by
  simp only [run_eq_ok_iff]
  cases resolved : c.resolve s with
  | error error => exact ⟨_, .unresolved resolved⟩
  | ok components =>
    obtain ⟨gridPower, main, support⟩ := components
    obtain ⟨-, foundMain, foundSupport⟩ := units_of_resolve resolved
    by_cases mode : GridMode.combine
        [StorageUnit.gridMode main, StorageUnit.gridMode support] = .offGrid
    · exact ⟨_, .offGrid resolved mode⟩
    · obtain ⟨mainArea, supportArea, stored, taken⟩ := c.takeSnapshot_of_batteries
        (bounded _ _ foundMain) (bounded _ _ foundSupport)
        (.combine [StorageUnit.gridMode main, StorageUnit.gridMode support]) gridPower sum
      cases known : sum.consumption with
      | none =>
        rw [known] at taken
        exact ⟨_, .unread resolved rfl mode taken⟩
      | some net =>
        rw [known] at taken
        have reads : Reads c s sum main support
            ⟨_, gridPower, mainArea, supportArea, stored, net⟩ := ⟨resolved, rfl, mode, taken⟩
        obtain ⟨d, granted, delivered⟩ := delivers main support _ reads
        exact ⟨_, .emitted reads delivered⟩

/-- What a charge cycle requires is no discharge, and if the support unit is RED it is the largest
draw on top of the production. -/
theorem required_planCharge {c : Controller} (nonneg : 0 ≤ c.settings.maxGridPower.toInt)
    (disk : Disk) {sum : Aggregates} (now : Instant) (s : Snapshot) {production : Watts}
    (spare : sum.production = some production) (positive : 0 ≤ production.toInt) :
    (c.planCharge disk sum now s).1.required.toInt ≤ 0 ∧
      (s.supportArea = .red → -c.settings.maxGridPower.toInt - production.toInt ≤
        (c.planCharge disk sum now s).1.required.toInt) := by
  obtain ⟨target, aimed, required⟩ : ∃ target : Watts,
      (c.planCharge disk sum now s).1.target = some target ∧
        (c.planCharge disk sum now s).1.required =
          Reading.satSub target (sum.production.getD 0) := ⟨_, rfl, rfl⟩
  have aim := cut_aim (c.aim disk now s)
  rw [target_planCharge, Option.some.injEq] at aimed
  rw [aimed] at aim
  rw [required, spare, Option.getD_some, Reading.toInt_satSub]
  unfold Reading.lowest Reading.highest
  refine ⟨by omega, ?_⟩
  intro red
  have forced : mustCharge s (c.reserve disk now) = true := decide_eq_true (.inr (.inr red))
  rw [Controller.aim, if_pos forced, Reading.toInt_satNeg_of_nonneg nonneg] at aim
  omega

/-- The room that the main unit needs in a charge cycle of the default table. -/
theorem room_of_planCharge {c : Controller} (table : c.table = .default)
    (nonneg : 0 ≤ c.settings.maxGridPower.toInt) (disk : Disk) {sum : Aggregates} (now : Instant)
    (s : Snapshot) {production : Watts} (spare : sum.production = some production)
    (positive : 0 ≤ production.toInt) {limit : Int}
    (room : c.settings.maxGridPower.toInt + production.toInt + limit ≤ 2147483644)
    (none : (c.planCharge disk sum now s).1.share.ofRequired
      (c.planCharge disk sum now s).1.required = 0) :
    limit - 2147483648 ≤ (c.planCharge disk sum now s).1.required.toInt := by
  obtain ⟨draws, red⟩ := required_planCharge nonneg disk now s spare positive
  rcases ShareTable.fifth_le_chargeShare s.mainArea s.supportArea with ⟨-, support⟩ | fifth
  · have most := red support
    omega
  · -- At least a fifth falls to the main unit, so hardly anything is to be charged.
    rw [← table] at fifth
    have small : ¬5 ≤ (c.planCharge disk sum now s).1.required.toInt.natAbs :=
      fun some => Share.ofRequired_ne_zero fifth some none
    omega

theorem room_of_plan {c : Controller} (table : c.table = .default)
    (nonneg : 0 ≤ c.settings.maxGridPower.toInt) (disk : Disk) (main : Battery) {sum : Aggregates}
    (now : Instant) {s : Snapshot}
    (spare : sum.production = some (max (Reading.satNeg s.consumption) 0)) {limit : Int}
    (room : s.consumption.toInt ≤ 0 →
      c.settings.maxGridPower.toInt - s.consumption.toInt + limit ≤ 2147483644)
    (nonpos : (c.plan disk main sum now s).1.required.toInt ≤ 0)
    (none : (c.plan disk main sum now s).1.share.ofRequired
      (c.plan disk main sum now s).1.required = 0) :
    limit - 2147483648 ≤ (c.plan disk main sum now s).1.required.toInt := by
  unfold plan at nonpos none ⊢
  split
  · next consumes =>
    rw [if_pos consumes] at nonpos
    exact absurd (Int32.lt_iff_toInt_lt.mp consumes) (Int.not_lt.mpr nonpos)
  · next charges =>
    rw [if_neg charges] at none
    have production := toInt_max (Reading.satNeg s.consumption) 0
    rw [Reading.satNeg, Reading.toInt_saturate, Int32.toInt_zero] at production
    have consumed : s.consumption.toInt ≤ 0 := Int32.le_iff_toInt_le.mp (Int32.not_lt.mp charges)
    have used := room consumed
    unfold Reading.lowest Reading.highest at production
    refine room_of_planCharge table nonneg disk now s spare ?_ ?_ none
    · rw [Reading.satNeg]
      omega
    · rw [Reading.satNeg]
      omega

variable {c : Controller} {disk : Disk} {s : Site} {sum : Aggregates} {now : Instant}

/-- A control cycle over batteries at the start of their cycle does not fault. -/
theorem run_ok (table : c.table = .default) (positive : 0 ≤ c.settings.maxGridPower.toInt)
    {net : Watts} (known : sum.consumption = some net)
    (spare : sum.production = some (max (Reading.satNeg net) 0))
    (started : ∀ id b, s.unit? id = some b → b.Bounded ∧ ∃ before : Battery,
      b = before.onCycle now)
    (room : ∀ b, s.unit? c.settings.mainUnit = some b → net.toInt ≤ 0 →
      c.settings.maxGridPower.toInt - net.toInt + b.parameters.limits.discharge.toInt ≤
        2147483644) :
    ∃ ran, c.run disk s sum now = .ok ran := by
  apply run_ok_of_delivers fun id b found => (started id b found).1
  intro main support snapshot reads
  obtain ⟨-, foundMain, -⟩ := units_of_resolve reads.resolved
  obtain ⟨-, -, consumed⟩ := takeSnapshot_given reads.taken
  obtain rfl : net = snapshot.consumption := Option.some.inj (known.symm.trans consumed)
  obtain ⟨-, before, rfl⟩ := started _ _ foundMain
  rw [deliver_ok_iff (before.ordered_onCycle now)]
  rintro ⟨none, beyond⟩
  have least := before.leastDischarge_onCycle now
  have fits := Reading.fits_toInt (before.onCycle now).envelope.discharge.lower
  rw [Reading.fits_iff] at fits
  unfold Reading.lowest at beyond
  have reserve := room_of_plan table positive disk (before.onCycle now) now spare
    (room (before.onCycle now) foundMain) (by omega) none
  omega

end Controller

end HybridStorage
