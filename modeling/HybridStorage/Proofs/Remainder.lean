import HybridStorage.Proofs.Requests
import HybridStorage.Proofs.Running

/-!
# Remainders that do not fit

Over whatever the cycle protocol makes of simulated units, a run of the controller ends without a
fault, but for one case: in a charge cycle that leaves nothing to a main unit that still discharges,
the support unit may have to take more than a reading can hold.
-/

namespace HybridStorage

namespace Battery

/-- What a request to a battery relies on. -/
structure Regular (b : Battery) : Prop where
  bounded : b.Bounded
  ordered : b.envelope.Ordered

variable {b b' : Battery}

theorem regular_of_create {p : Parameters} (created : create p = .ok b) : b.Regular := by
  refine ⟨bounded_of_create created, ?_⟩
  obtain ⟨_, _, same⟩ := bind_eq_ok_iff.mp created
  cases same
  exact PowerEnvelope.ordered_compute _ _ _ _

theorem Regular.onCycle (regular : b.Regular) (now : Instant) : (b.onCycle now).Regular :=
  ⟨regular.bounded.onCycle now, b.ordered_onCycle now⟩

theorem Regular.answer (regular : b.Regular) (now : Instant) (request : Option Watts) :
    (b.answer now request).Regular := by
  refine ⟨regular.bounded.answer now request, ?_⟩
  cases request with
  | none => exact regular.ordered
  | some request =>
    rw [answer_some]
    exact regular.ordered

theorem Regular.applyPending (regular : b.Regular) {now : Instant}
    (applies : b.applyPending now = .ok b') : b'.Regular := by
  refine ⟨regular.bounded.step (changes_applyPending applies), ?_⟩
  obtain ⟨_, _, rfl⟩ := applyPending_eq_ok_iff.mp applies
  exact regular.ordered

end Battery

namespace Site

/-- What batteries and meters come to, added and removed at any time, when cycles start, controllers
run and set-points are applied, in any order and at any times. -/
inductive Reached : Site → Prop where
  | empty : Reached .empty
  | addedUnit {s : Site} {p : Battery.Parameters} {b : Battery} (reached : Reached s)
      (created : Battery.create p = .ok b) : Reached (s.insertUnit b).2
  | removedUnit {s : Site} (reached : Reached s) (id : String) : Reached (s.removeUnit id).2
  | addedMeter {s : Site} (reached : Reached s) (m : Meter) : Reached (s.insertMeter m).2
  | started {s : Site} (reached : Reached s) (now : Instant) : Reached (s.startCycle now)
  | ran {s : Site} {c : Controller} {disk : Disk} {sum : Aggregates} {now : Instant}
      {ran : Controller.Ran Site} (reached : Reached s) (runs : c.run disk s sum now = .ok ran) :
      Reached ran.plant
  | applied {s s' : Site} {now : Instant} (reached : Reached s)
      (applies : s.applyPending now = .ok s') : Reached s'

theorem Reached.regular {s : Site} (reached : s.Reached) :
    ∀ id b, s.unit? id = some b → b.Regular := by
  induction reached with
  | empty =>
    intro id b found
    cases found
  | addedUnit _ created ih =>
    intro id b found
    rw [unit?_insertUnit] at found
    split at found
    · cases found
      exact Battery.regular_of_create created
    · exact ih id b found
  | removedUnit _ removed ih =>
    intro id b found
    rw [unit?_removeUnit] at found
    split at found
    · cases found
    · exact ih id b found
  | addedMeter _ _ ih => exact ih
  | started _ now ih =>
    intro id b found
    rw [unit?_startCycle] at found
    obtain ⟨before, present, rfl⟩ := Option.map_eq_some_iff.mp found
    exact (ih id before present).onCycle now
  | ran _ runs ih =>
    intro id b found
    rw [Controller.unit?_of_run runs] at found
    obtain ⟨before, present, rfl⟩ := Option.map_eq_some_iff.mp found
    exact (ih id before present).answer _ _
  | applied _ applies ih =>
    intro id b found
    rcases unit?_applyPending applies id with ⟨-, absent⟩ | ⟨before, after, present, applied, left⟩
    · cases absent.symm.trans found
    · cases left.symm.trans found
      exact (ih id before present).applyPending applied

end Site

namespace Controller

section Faults

variable {σ α : Type} [StorageUnit α] [Plant σ α]

/-- Units that are asked for their parts fault in one place: what is left does not fit a reading. -/
theorem fault_of_deliver {p : Plan} {now : Instant} {main support : α} {fault : Fault}
    (h : deliver p now main support = .error fault) : fault = .overflow := by
  obtain ⟨mainRequest, supportRequest, split, -⟩ := p.share.split_ok p.required
  simp only [deliver, split, bind, Except.bind] at h
  split at h
  · next left =>
    cases h
    exact Reading.fault_of_sub left
  · cases h

theorem run_fault_of_reads {c : Controller} {disk : Disk} {plant : σ} {sum : Aggregates}
    {now : Instant} {main support : α} {s : Snapshot} {fault : Fault}
    (reads : Reads c plant sum main support s)
    (faults : deliver (c.plan disk main sum now s).1 now main support = .error fault) :
    c.run disk plant sum now = .error fault := by
  obtain ⟨resolved, mode, onGrid, taken⟩ := reads
  rw [mode] at onGrid taken
  simp only [run, resolved, dispatch, if_neg onGrid, taken, faults]
  rfl

end Faults

variable {c : Controller} {disk : Disk} {s : Site} {sum : Aggregates} {now : Instant}

/-- The main unit is asked for nothing in a charge cycle, and what the support unit is to take
beside the least that the main unit discharges lies below the lowest reading. -/
def Overdraws (c : Controller) (disk : Disk) (s : Site) (sum : Aggregates) (now : Instant) : Prop :=
  ∃ (main support : Battery) (snapshot : Snapshot),
    Reads c s sum main support snapshot ∧ snapshot.consumption.toInt ≤ 0 ∧
      (c.planCharge disk sum now snapshot).1.share.ofRequired
        (c.planCharge disk sum now snapshot).1.required = 0 ∧
      (c.planCharge disk sum now snapshot).1.required.toInt -
        main.envelope.discharge.lower.toInt < Reading.lowest

/-- Every discharge cycle leaves a remainder that fits. -/
theorem delivers_of_not_overdraws (within : ¬c.Overdraws disk s sum now) {main support : Battery}
    (ordered : main.envelope.Ordered) {snapshot : Snapshot}
    (reads : Reads c s sum main support snapshot) :
    ∃ d granted, Delivers (c.plan disk main sum now snapshot).1 now main support d granted := by
  rw [deliver_ok_iff ordered]
  rintro ⟨none, beyond⟩
  unfold plan at none beyond
  split at none
  · next consumes =>
    rw [if_pos consumes] at beyond
    have consumption := Int32.lt_iff_toInt_lt.mp consumes
    have least := Reading.toInt_le_highest main.envelope.discharge.lower
    change snapshot.consumption.toInt - _ < _ at beyond
    rw [Int32.toInt_zero] at consumption
    unfold Reading.lowest at beyond
    unfold Reading.highest at least
    omega
  · next charges =>
    rw [if_neg charges] at beyond
    exact within ⟨main, support, snapshot, reads,
      Int32.le_iff_toInt_le.mp (Int32.not_lt.mp charges), none, beyond⟩

theorem run_faults_of_overdraws (regular : ∀ id b, s.unit? id = some b → b.Regular)
    (overdraws : c.Overdraws disk s sum now) : c.run disk s sum now = .error .overflow := by
  obtain ⟨main, support, snapshot, reads, charges, none, beyond⟩ := overdraws
  obtain ⟨-, foundMain, -⟩ := units_of_resolve reads.resolved
  have ordered := (regular _ _ foundMain).ordered
  have planned : (c.plan disk main sum now snapshot).1 = (c.planCharge disk sum now snapshot).1 := by
    rw [plan, if_neg (Int32.not_lt.mpr (Int32.le_iff_toInt_le.mpr charges))]
  rw [← planned] at none beyond
  cases delivered : deliver (c.plan disk main sum now snapshot).1 now main support with
  | ok given =>
    have fits := (deliver_ok_iff ordered now support).mp
      ⟨given.1, given.2, deliver_eq_ok_iff.mp delivered⟩
    exact absurd ⟨none, beyond⟩ fits
  | error fault =>
    rw [run_fault_of_reads reads delivered, fault_of_deliver delivered]

/-- Whether a run ends without a fault, for every state that the cycle protocol reaches and all
settings, tables, files and readings. -/
theorem run_completes_iff (reached : s.Reached) (c : Controller) (disk : Disk) (sum : Aggregates)
    (now : Instant) :
    ((∃ ran, c.run disk s sum now = .ok ran) ↔ ¬c.Overdraws disk s sum now) ∧
      (c.Overdraws disk s sum now → c.run disk s sum now = .error .overflow) := by
  have faults : c.Overdraws disk s sum now → c.run disk s sum now = .error .overflow :=
    run_faults_of_overdraws reached.regular
  refine ⟨⟨?_, ?_⟩, faults⟩
  · rintro ⟨ran, runs⟩ overdraws
    cases runs.symm.trans (faults overdraws)
  · intro within
    apply run_ok_of_delivers fun id b found => (reached.regular id b found).bounded
    intro main support snapshot reads
    obtain ⟨-, foundMain, -⟩ := units_of_resolve reads.resolved
    exact delivers_of_not_overdraws within (reached.regular _ _ foundMain).ordered reads

/-- One cycle of the protocol. -/
def tend (c : Controller) (disk : Disk) (s : Site) (sum : Aggregates) (now : Instant) :
    Checked Site := do
  let ran ← c.run disk (s.startCycle now) sum now
  ran.plant.applyPending now

theorem reached_tend {s' : Site} (reached : s.Reached) (tended : c.tend disk s sum now = .ok s') :
    s'.Reached := by
  obtain ⟨ran, runs, applies⟩ := bind_eq_ok_iff.mp tended
  exact ((reached.started now).ran runs).applied applies

/-- A main unit well filled and a support unit nearly empty, after two cycles of load: the main unit
delivers two ramps. -/
def rampedSite (first second third : Instant) : Checked Site := do
  let main ← Battery.create { UnitSpec.default with initialCharge := 90 }.parameters
  let support ← Battery.create { UnitSpec.default with id := "ess1", initialCharge := 5 }.parameters
  let units := ((Site.empty.insertUnit main).2.insertUnit support).2
  let installed := (units.insertMeter { id := "meter0" }).2
  let ramping ← (create .default).tend .empty installed { consumption := some 60000 } first
  let ramped ← (create .default).tend .empty ramping { consumption := some 60000 } second
  pure (ramped.startCycle third)

theorem reached_rampedSite {first second third : Instant} {s : Site}
    (built : rampedSite first second third = .ok s) : s.Reached := by
  obtain ⟨main, createdMain, built⟩ := bind_eq_ok_iff.mp built
  obtain ⟨support, createdSupport, built⟩ := bind_eq_ok_iff.mp built
  obtain ⟨ramping, onceTended, built⟩ := bind_eq_ok_iff.mp built
  obtain ⟨ramped, tended, same⟩ := bind_eq_ok_iff.mp built
  cases same
  have units := (Site.Reached.empty.addedUnit createdMain).addedUnit createdSupport
  have installed := units.addedMeter { id := "meter0" }
  exact (reached_tend (reached_tend installed onceTended) tended).started third

open Battery (hour)

/-- The load is gone, and there is production. -/
def sunlit (production : Watts) : Aggregates :=
  { consumption := some 0, production := some production }

theorem rampedSite_runs : ∃ s, rampedSite (hour 9) (hour 10) (hour 11) = .ok s ∧
    (create .default).run .empty s (sunlit 2147483647) (hour 11) = .error .overflow ∧
    ∃ ran, (create .default).run .empty s (sunlit 2147000000) (hour 11) = .ok ran := by
  have trace : (do
      let s ← (rampedSite (hour 9) (hour 10) (hour 11)).toOption
      let _ ← ((create .default).run .empty s (sunlit 2147000000) (hour 11)).toOption
      match (create .default).run .empty s (sunlit 2147483647) (hour 11) with
      | .error fault => some (decide (fault = .overflow))
      | .ok _ => none) = some true := by
    decide +kernel
  simp only [Option.bind_eq_bind, Option.bind_eq_some_iff] at trace
  obtain ⟨s, built, ran, runs, faulted⟩ := trace
  refine ⟨s, ok_of_toOption built, ?_, ran, ok_of_toOption runs⟩
  split at faulted
  · next faults =>
    rw [faults]
    exact congrArg Except.error (of_decide_eq_true (Option.some.inj faulted))
  · cases faulted

/-- With the main unit at 20 kW, the largest production that a reading can hold is too much. -/
theorem run_completes_iff_rampedSite : ∃ s, rampedSite (hour 9) (hour 10) (hour 11) = .ok s ∧
    (create .default).Overdraws .empty s (sunlit 2147483647) (hour 11) ∧
    (create .default).run .empty s (sunlit 2147483647) (hour 11) = .error .overflow ∧
    ¬(create .default).Overdraws .empty s (sunlit 2147000000) (hour 11) := by
  obtain ⟨s, built, faults, completes⟩ := rampedSite_runs
  obtain ⟨most, -⟩ := run_completes_iff (reached_rampedSite built) (create .default) .empty
    (sunlit 2147483647) (hour 11)
  obtain ⟨less, -⟩ := run_completes_iff (reached_rampedSite built) (create .default) .empty
    (sunlit 2147000000) (hour 11)
  have stopped : ¬∃ ran, (create .default).run .empty s (sunlit 2147483647) (hour 11) =
      .ok ran := by
    rintro ⟨ran, runs⟩
    cases runs.symm.trans faults
  exact ⟨s, built, Classical.not_not.mp (mt most.mpr stopped), faults, less.mp completes⟩

theorem run_not_always_completes :
    ¬∀ (c : Controller) (disk : Disk) (s : Site) (sum : Aggregates) (now : Instant),
      s.Reached → ∃ ran, c.run disk s sum now = .ok ran := by
  intro always
  obtain ⟨s, built, faults, -⟩ := rampedSite_runs
  obtain ⟨ran, runs⟩ := always _ _ _ (sunlit 2147483647) _ (reached_rampedSite built)
  cases runs.symm.trans faults

end Controller

end HybridStorage
