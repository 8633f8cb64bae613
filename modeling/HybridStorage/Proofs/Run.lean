import HybridStorage.Dispatch.Controller
import HybridStorage.Proofs.Readings
import HybridStorage.Proofs.Results

/-!
# How a control cycle ends

A run of the controller ends in one of four ways. Three of them leave the plant and the controller
as they were: a component cannot be looked up, both units are off the grid, or a reading is
undefined. In the fourth the run has read its units, decided on the required power, asked both
units, and emits. `Controller.run_eq_ok_iff` says so for every plant.
-/

namespace HybridStorage

/-- What a run dispatched, if it did. -/
def Outcome.dispatch? : Outcome → Option Dispatch
  | .offGrid => none
  | .dispatched d => some d

theorem Outcome.eq_dispatched {outcome : Outcome} {d : Dispatch}
    (h : outcome.dispatch? = some d) : outcome = .dispatched d := by
  cases outcome with
  | offGrid => cases h
  | dispatched dispatch => exact congrArg Outcome.dispatched (Option.some.inj h)

namespace Controller

variable {σ α : Type} [StorageUnit α] [Plant σ α]

/-- The run finds both units, at least one of them possibly on the grid, and reads them. -/
structure Reads (c : Controller) (plant : σ) (sum : Aggregates) (main support : α) (s : Snapshot) :
    Prop where
  resolved : c.resolve plant = .ok (s.gridPower, main, support)
  mode : s.gridMode = GridMode.combine [StorageUnit.gridMode main, StorageUnit.gridMode support]
  onGrid : s.gridMode ≠ .offGrid
  taken : c.takeSnapshot main support s.gridMode s.gridPower sum = .ok s

/-- Both units have been asked: `d` is what they are to deliver, `granted` the units after it. -/
structure Delivers (p : Plan) (now : Instant) (main support : α) (d : Delivery) (granted : α × α) :
    Prop where
  split : p.share.split p.required = .ok (d.mainRequest, d.supportRequest)
  main : StorageUnit.grant main now d.mainRequest = (d.mainSetPoint, granted.1)
  /-- The support unit is asked for all that the main unit leaves. -/
  support : ∃ rest, Reading.sub p.required d.mainSetPoint = .ok rest ∧
    StorageUnit.grant support now rest = (d.supportSetPoint, granted.2)

/-- The ways in which a run ends. -/
inductive Ends (c : Controller) (disk : Disk) (plant : σ) (sum : Aggregates) (now : Instant) :
    Ran σ → Prop where
  | unresolved {error : DispatchError} (resolved : c.resolve plant = .error error) :
      Ends c disk plant sum now ⟨c, plant, .error error⟩
  | offGrid {gridPower : Option Watts} {main support : α}
      (resolved : c.resolve plant = .ok (gridPower, main, support))
      (mode :
        GridMode.combine [StorageUnit.gridMode main, StorageUnit.gridMode support] = .offGrid) :
      Ends c disk plant sum now ⟨c, plant, .ok .offGrid⟩
  | unread {gridPower : Option Watts} {main support : α} {mode : GridMode} {error : DispatchError}
      (resolved : c.resolve plant = .ok (gridPower, main, support))
      (mode_eq : mode =
        GridMode.combine [StorageUnit.gridMode main, StorageUnit.gridMode support])
      (onGrid : mode ≠ .offGrid)
      (taken : c.takeSnapshot main support mode gridPower sum = .error (.abort error)) :
      Ends c disk plant sum now ⟨c, plant, .error error⟩
  | emitted {main support : α} {s : Snapshot} {d : Delivery} {granted : α × α}
      (reads : Reads c plant sum main support s)
      (delivers : Delivers (c.plan disk main sum now s).1 now main support d granted) :
      Ends c disk plant sum now
        ⟨(c.plan disk main sum now s).2,
          Plant.putPair plant c.settings.mainUnit c.settings.supportUnit
            (emit d granted.1 granted.2).1,
          (emit d granted.1 granted.2).2.map fun () =>
            .dispatched ⟨now, s, (c.plan disk main sum now s).1, d⟩⟩

omit [StorageUnit α] in
theorem pair_of_resolve {c : Controller} {plant : σ} {gridPower : Option Watts} {main support : α}
    (h : c.resolve plant = .ok (gridPower, main, support)) :
    Plant.unitPair plant c.settings.mainUnit c.settings.supportUnit = .ok (main, support) := by
  simp only [resolve, bind_eq_ok_iff] at h
  obtain ⟨_, _, pair, found, same⟩ := h
  cases same
  exact found

theorem deliver_eq_ok_iff {p : Plan} {now : Instant} {main support : α} {d : Delivery}
    {granted : α × α} :
    deliver p now main support = .ok (d, granted) ↔ Delivers p now main support d granted := by
  simp only [deliver, bind_eq_ok_iff]
  constructor
  · rintro ⟨⟨mainRequest, supportRequest⟩, split, rest, left, same⟩
    cases same
    exact ⟨split, rfl, rest, left, rfl⟩
  · rintro ⟨split, mainGrant, rest, left, supportGrant⟩
    refine ⟨_, split, rest, ?_, ?_⟩
    · rw [mainGrant]
      exact left
    · simp only [mainGrant, supportGrant]
      rfl

theorem Delivers.unique {p : Plan} {now : Instant} {main support : α} {d d' : Delivery}
    {granted granted' : α × α} (delivers : Delivers p now main support d granted)
    (delivers' : Delivers p now main support d' granted') : (d, granted) = (d', granted') :=
  Except.ok.inj ((deliver_eq_ok_iff.mpr delivers).symm.trans (deliver_eq_ok_iff.mpr delivers'))

theorem Reads.unique {c : Controller} {plant : σ} {sum : Aggregates} {main main' support support' : α}
    {s s' : Snapshot} (reads : Reads c plant sum main support s)
    (reads' : Reads c plant sum main' support' s') : s = s' := by
  obtain ⟨samePower, components⟩ :=
    Prod.mk.inj (Except.ok.inj (reads.resolved.symm.trans reads'.resolved))
  obtain ⟨rfl, rfl⟩ := Prod.mk.inj components
  have sameMode := reads.mode.trans reads'.mode.symm
  have taken := reads.taken
  rw [sameMode, samePower] at taken
  exact Except.ok.inj (taken.symm.trans reads'.taken)

/-- A snapshot repeats what was found out before it. -/
theorem takeSnapshot_given {c : Controller} {main support : α} {mode : GridMode}
    {gridPower : Option Watts} {sum : Aggregates} {s : Snapshot}
    (taken : c.takeSnapshot main support mode gridPower sum = .ok s) :
    s.gridMode = mode ∧ s.gridPower = gridPower ∧ sum.consumption = some s.consumption := by
  simp only [takeSnapshot, bind_eq_ok_iff] at taken
  obtain ⟨_, _, _, _, _, _, _, _, _, _, taken⟩ := taken
  split at taken
  · cases taken
  · next known =>
    cases taken
    exact ⟨rfl, rfl, known⟩

theorem run_eq_ok_iff {c : Controller} {disk : Disk} {plant : σ} {sum : Aggregates} {now : Instant}
    {ran : Ran σ} : c.run disk plant sum now = .ok ran ↔ Ends c disk plant sum now ran := by
  constructor
  · intro h
    unfold run at h
    split at h
    · next error resolved =>
      cases h
      exact .unresolved resolved
    · next gridPower main support resolved =>
      simp only [dispatch] at h
      split at h
      · next mode =>
        cases h
        exact .offGrid resolved mode
      · next mode =>
        split at h
        · cases h
        · next error taken =>
          cases h
          exact .unread resolved rfl mode taken
        · next s taken =>
          obtain ⟨sameMode, samePower, -⟩ := takeSnapshot_given taken
          obtain ⟨⟨d, granted⟩, delivered, rest⟩ := bind_eq_ok_iff.mp h
          cases rest
          rw [← sameMode] at mode
          rw [← sameMode, ← samePower] at taken
          rw [← samePower] at resolved
          exact .emitted ⟨resolved, sameMode, mode, taken⟩ (deliver_eq_ok_iff.mp delivered)
  · intro h
    cases h with
    | unresolved resolved => simp only [run, resolved]
    | offGrid resolved mode => simp only [run, resolved, dispatch, mode, if_true]; rfl
    | unread resolved mode onGrid taken =>
      subst mode
      simp only [run, resolved, dispatch, if_neg onGrid, taken]
      rfl
    | emitted reads delivers =>
      obtain ⟨resolved, mode, onGrid, taken⟩ := reads
      have delivered := deliver_eq_ok_iff.mpr delivers
      rw [mode] at onGrid taken
      simp only [run, resolved, dispatch, if_neg onGrid, taken, delivered]
      rfl

/-- What a dispatched run has read, decided, asked for and written. -/
structure Dispatches (c : Controller) (disk : Disk) (plant : σ) (sum : Aggregates) (now : Instant)
    (ran : Ran σ) (d : Dispatch) (main support : α) (granted : α × α) : Prop where
  time : d.now = now
  reads : Reads c plant sum main support d.snapshot
  planned : c.plan disk main sum now d.snapshot = (d.plan, ran.controller)
  delivers : Delivers d.plan now main support d.delivery granted
  accepted : (emit d.delivery granted.1 granted.2).2 = .ok ()
  written : ran.plant = Plant.putPair plant c.settings.mainUnit c.settings.supportUnit
    (emit d.delivery granted.1 granted.2).1

theorem dispatches_of_run {c : Controller} {disk : Disk} {plant : σ} {sum : Aggregates}
    {now : Instant} {ran : Ran σ} {d : Dispatch} (h : c.run disk plant sum now = .ok ran)
    (dispatched : ran.outcome = .ok (.dispatched d)) :
    ∃ main support : α, ∃ granted : α × α,
      Dispatches c disk plant sum now ran d main support granted := by
  cases run_eq_ok_iff.mp h with
  | unresolved => cases dispatched
  | offGrid => cases dispatched
  | unread => cases dispatched
  | @emitted main support s delivery granted reads delivers =>
    obtain ⟨_, accepted, same⟩ := map_eq_ok_iff.mp dispatched
    cases same
    exact ⟨main, support, granted, rfl, reads, rfl, delivers, accepted, rfl⟩

/-- A dispatched run serves the consumption that it was given, or charges if there is none. -/
theorem plan_of_run {c : Controller} {disk : Disk} {plant : σ} {sum : Aggregates} {now : Instant}
    {ran : Ran σ} {d : Dispatch} (h : c.run disk plant sum now = .ok ran)
    (dispatched : ran.outcome = .ok (.dispatched d)) :
    sum.consumption = some d.snapshot.consumption ∧
      ((0 < d.snapshot.consumption.toInt ∧ ∃ main : α, d.plan = c.planDischarge main d.snapshot) ∨
        (d.snapshot.consumption.toInt ≤ 0 ∧
          d.plan = (c.planCharge disk sum now d.snapshot).1)) := by
  obtain ⟨main, _, _, run⟩ := dispatches_of_run h dispatched
  obtain ⟨-, -, known⟩ := takeSnapshot_given run.reads.taken
  refine ⟨known, ?_⟩
  have planned := congrArg Prod.fst run.planned
  unfold plan at planned
  split at planned
  · next consumes => exact .inl ⟨Int32.lt_iff_toInt_lt.mp consumes, main, planned.symm⟩
  · next none => exact .inr ⟨Int32.le_iff_toInt_le.mp (Int32.not_lt.mp none), planned.symm⟩

end Controller

end HybridStorage
