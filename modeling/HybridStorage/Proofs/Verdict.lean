import HybridStorage.Proofs.Headroom

/-!
# How the cycles of a scenario end

All cycles of a run end alike, and the two units of the controller decide how: a unit that is
switched off aborts every cycle, two units off the grid leave every cycle without set-points, and
otherwise every cycle is dispatched.
-/

namespace HybridStorage

def DispatchError.ofOutcome : Except DispatchError Outcome → Option DispatchError
  | .error error => some error
  | .ok _ => none

namespace UnitSpec

variable (main support : UnitSpec)

/-- The error of every cycle, if one of the two units is switched off. -/
def error : Option DispatchError :=
  if main.enabled = false then some (.componentDisabled main.id)
  else if support.enabled = false then some (.componentDisabled support.id)
  else none

/-- The status of every cycle. -/
def status : CycleStatus :=
  if main.enabled = false ∨ support.enabled = false then .aborted
  else if main.gridMode = .offGrid ∧ support.gridMode = .offGrid then .offGrid
  else .dispatched

end UnitSpec

theorem GridMode.combine_eq_offGrid_iff {a b : GridMode} :
    combine [a, b] = .offGrid ↔ a = .offGrid ∧ b = .offGrid := by
  cases a <;> cases b <;> decide

theorem Record.error_withOutcome {r : Record} (outcome : Except DispatchError Outcome)
    (unset : r.error = none) : (r.withOutcome outcome).error =
      (DispatchError.ofOutcome outcome).map DispatchError.message := by
  unfold withOutcome
  split
  · rfl
  · exact unset
  · exact unset

namespace Controller

/-- Two different units that are there can be looked up together unless one is switched off. -/
theorem resolve_eq {c : Controller} {settings : Settings} (same : c.settings = settings) {s : Site}
    {meter : Meter} {main support : Battery} (different : settings.mainUnit ≠ settings.supportUnit)
    (foundMeter : s.meters.get? settings.meter = some meter) (on : meter.enabled = true)
    (foundMain : s.unit? settings.mainUnit = some main)
    (foundSupport : s.unit? settings.supportUnit = some support) :
    c.resolve s =
      if main.parameters.enabled = false then .error (.componentDisabled settings.mainUnit)
      else if support.parameters.enabled = false then
        .error (.componentDisabled settings.supportUnit)
      else .ok (meter.power, main, support) := by
  subst same
  have metered : Plant.meterPower s c.settings.meter = .ok meter.power := by
    change (s.meter c.settings.meter).map (·.power) = _
    rw [Site.meter, foundMeter, Site.require, if_pos on]
    rfl
  have pair : Plant.unitPair s c.settings.mainUnit c.settings.supportUnit =
      s.unitPair c.settings.mainUnit c.settings.supportUnit := rfl
  rw [resolve, metered, pair, Site.unitPair, if_neg different, Site.unit, Site.unit, foundMain,
    foundSupport]
  cases mainOn : main.parameters.enabled with
  | false => simp only [Site.require, mainOn]; rfl
  | true =>
    cases supportOn : support.parameters.enabled with
    | false => simp only [Site.require, mainOn, supportOn]; rfl
    | true => simp only [Site.require, mainOn, supportOn]; rfl

/-- Once both units are found and on, a run ends as their grid modes say. -/
theorem ended_of_resolve {c : Controller} {disk : Disk} {plant : Site} {sum : Aggregates}
    {now : Instant} {ran : Ran Site} {gridPower : Option Watts} {main support : Battery}
    (resolved : c.resolve plant = .ok (gridPower, main, support)) (mainBounded : main.Bounded)
    (supportBounded : support.Bounded) {net : Watts} (known : sum.consumption = some net)
    (h : c.run disk plant sum now = .ok ran) :
    DispatchError.ofOutcome ran.outcome = none ∧ CycleStatus.ofOutcome ran.outcome =
      if main.parameters.gridMode = .offGrid ∧ support.parameters.gridMode = .offGrid
      then .offGrid else .dispatched := by
  cases run_eq_ok_iff.mp h with
  | unresolved failed => cases failed.symm.trans resolved
  | offGrid resolved' mode =>
    cases resolved.symm.trans resolved'
    exact ⟨rfl, (if_pos (GridMode.combine_eq_offGrid_iff.mp mode)).symm⟩
  | unread resolved' _ _ failed =>
    cases resolved.symm.trans resolved'
    obtain ⟨_, taken⟩ := c.takeSnapshot_ok mainBounded supportBounded _ _ known
    cases failed.symm.trans taken
  | emitted reads delivers =>
    cases resolved.symm.trans reads.resolved
    have mode := reads.onGrid
    rw [reads.mode] at mode
    exact ⟨rfl, (if_neg fun off => mode (GridMode.combine_eq_offGrid_iff.mpr off)).symm⟩

end Controller

namespace Engine

variable {s : Scenario} {k : Nat} {e e' : Engine} {disk : Disk} {now : Instant} {sample : Sample}
  {c : Cycled} {main support : UnitSpec}

/-- The controller of a running engine finds its components as the units are switched. -/
theorem Equipped.resolve_eq (equipped : e.Equipped s k) (sound : s.Sound)
    (foundMain : s.unit? s.controller.mainUnit = some main)
    (foundSupport : s.unit? s.controller.supportUnit = some support) {net grid : Watts}
    {metered : Site} {ran : Controller.Ran Site}
    (serves : e.Serves disk k now sample c net metered ran grid) :
    ∃ (power : Option Watts) (a b : Battery), a.Bounded ∧ b.Bounded ∧
      a.parameters = main.parameters ∧ b.parameters = support.parameters ∧
      e.controller.resolve metered =
        if main.enabled = false then .error (.componentDisabled main.id)
        else if support.enabled = false then .error (.componentDisabled support.id)
        else .ok (power, a, b) := by
  obtain ⟨a, presentA, parametersA⟩ := equipped.stocked.unit foundMain
  obtain ⟨b, presentB, parametersB⟩ := equipped.stocked.unit foundSupport
  have boundedA : (a.onCycle now).Bounded :=
    (equipped.stocked.holds _ a presentA).bounded.step (.kept rfl rfl rfl rfl rfl)
  have boundedB : (b.onCycle now).Bounded :=
    (equipped.stocked.holds _ b presentB).bounded.step (.kept rfl rfl rfl rfl rfl)
  have meteredA := serves.unit?_metered e.controller.settings.mainUnit
  have meteredB := serves.unit?_metered e.controller.settings.supportUnit
  obtain ⟨_, meter⟩ := equipped.meter
  have reads := serves.reads
  rw [equipped.settings] at meteredA meteredB reads
  rw [presentA] at meteredA
  rw [presentB] at meteredB
  rw [← sound.meter] at meter
  obtain ⟨power, meter⟩ := Site.meter_readMeter reads meter
  have resolved := Controller.resolve_eq equipped.settings sound.different meter rfl meteredA
    meteredB
  have onA : (a.onCycle now).parameters.enabled = main.enabled :=
    congrArg (·.enabled) parametersA
  have onB : (b.onCycle now).parameters.enabled = support.enabled :=
    congrArg (·.enabled) parametersB
  refine ⟨power, a.onCycle now, b.onCycle now, boundedA, boundedB, parametersA, parametersB, ?_⟩
  rw [resolved, onA, onB, (Scenario.mem_of_unit? foundMain).2,
    (Scenario.mem_of_unit? foundSupport).2]

theorem Equipped.ended_of_serve (equipped : e.Equipped s k) (sound : s.Sound)
    (foundMain : s.unit? s.controller.mainUnit = some main)
    (foundSupport : s.unit? s.controller.supportUnit = some support)
    (serve : e.serve disk k now sample = .ok c) :
    DispatchError.ofOutcome c.outcome = main.error support ∧
      c.record.status = main.status support ∧
      c.record.error = (main.error support).map DispatchError.message := by
  obtain ⟨_, metered, ran, _, serves⟩ := serves_of_serve serve
  obtain ⟨power, a, b, boundedA, boundedB, parametersA, parametersB, resolved⟩ :=
    equipped.resolve_eq sound foundMain foundSupport serves
  have told : c.record.error = (DispatchError.ofOutcome c.outcome).map DispatchError.message := by
    rw [serves.record_eq, serves.outcome_eq]
    exact Record.error_withOutcome _ rfl
  have ended : DispatchError.ofOutcome c.outcome = main.error support ∧
      CycleStatus.ofOutcome c.outcome = main.status support := by
    have runs := serves.runs
    rw [serves.outcome_eq, UnitSpec.error, UnitSpec.status]
    by_cases mainOff : main.enabled = false
    · rw [if_pos mainOff] at resolved ⊢
      rw [if_pos (.inl mainOff)]
      rw [Controller.run, resolved] at runs
      cases runs
      exact ⟨rfl, rfl⟩
    · by_cases supportOff : support.enabled = false
      · rw [if_neg mainOff, if_pos supportOff] at resolved ⊢
        rw [if_pos (.inr supportOff)]
        rw [Controller.run, resolved] at runs
        cases runs
        exact ⟨rfl, rfl⟩
      · rw [if_neg mainOff, if_neg supportOff] at resolved ⊢
        rw [if_neg (not_or.mpr ⟨mainOff, supportOff⟩)]
        have ended := Controller.ended_of_resolve resolved boundedA boundedB rfl runs
        rw [parametersA, parametersB] at ended
        exact ended
  obtain ⟨error, status⟩ := ended
  rw [told, status_of_serve serve, error, status]
  exact ⟨rfl, rfl, rfl⟩

/-- A run that does not fault serves all cycles of a valid scenario in order. They all end alike:
aborted because a unit of the controller is switched off, without set-points because both are off
the grid, or dispatched. -/
theorem all_cycles_end_alike {records : List Record} (build : s.build = .ok (.ok e))
    (run : e.run disk = .ok (records, e')) :
    records.map (·.cycle) = List.range s.simulation.cycles.toNat ∧
      ∃ main support cycles, s.unit? s.controller.mainUnit = some main ∧
        s.unit? s.controller.supportUnit = some support ∧
        Runs disk e cycles e' ∧ cycles.map (·.record) = records ∧
        ∀ c ∈ cycles, DispatchError.ofOutcome c.outcome = main.error support ∧
          c.record.status = main.status support ∧
          c.record.error = (main.error support).map DispatchError.message := by
  have sound := Scenario.sound (Scenario.build_eq_ok_iff.mp build).1
  have running := running_of_build build
  obtain ⟨main, foundMain⟩ := Scenario.unit?_of_mem sound.main
  obtain ⟨support, foundSupport⟩ := Scenario.unit?_of_mem sound.support
  rw [Engine.run, running.remaining] at run
  obtain ⟨cycles, runs, length, told⟩ := runs_of_steps run running.enough
  have order := running.cycles_eq sound.meter runs
  refine ⟨?_, main, support, cycles, foundMain, foundSupport, runs, told, ?_⟩
  · rw [length] at order
    rw [← told, List.map_map, List.range_eq_range']
    exact order
  · refine running.forall_cycles sound.meter runs ?_
    intro k e now c equipped _ serve
    exact equipped.ended_of_serve sound foundMain foundSupport serve

theorem all_cycles_end_alike_night : ∃ e records e', nightScenario.build = .ok (.ok e) ∧
    e.run .empty = .ok (records, e') ∧ records.map (·.cycle) = [0, 1, 2] ∧
      ∀ r ∈ records, r.status = .dispatched ∧ r.error = none := by
  obtain ⟨e, build, -⟩ := Scenario.build_ok (s := nightScenario) (by decide +kernel)
  obtain ⟨records, e', run, -⟩ :=
    run_ok build rfl rfl night_headroom night_netLoadWithin .empty
  obtain ⟨order, main, support, cycles, foundMain, foundSupport, -, told, alike⟩ :=
    all_cycles_end_alike build run
  cases foundMain
  cases foundSupport
  refine ⟨e, records, e', build, run, order, ?_⟩
  rw [← told]
  intro r member
  obtain ⟨c, served, rfl⟩ := List.mem_map.mp member
  exact (alike c served).2

end Engine

end HybridStorage
