import HybridStorage.Proofs.Redistribution
import HybridStorage.Proofs.Run

/-!
# Grid set-points aimed at

A charge cycle never aims at feeding in. If the units must be charged it aims at the largest power
drawn from the grid. Else it follows the power forecast, and nothing holds that to the largest
power.
-/

namespace HybridStorage.Controller

def reserve (c : Controller) (disk : Disk) (now : Instant) : WattHours :=
  (predict c.energyStore disk now).1.getD c.settings.minimumEnergy

def forecastPower (c : Controller) (disk : Disk) (now : Instant) : Option Watts :=
  (predict c.powerStore disk now).1

def aim (c : Controller) (disk : Disk) (now : Instant) (s : Snapshot) : Watts :=
  if mustCharge s (c.reserve disk now) then Reading.satNeg c.settings.maxGridPower
  else (c.forecastPower disk now).getD 0

theorem target_planCharge (c : Controller) (disk : Disk) (sum : Aggregates) (now : Instant)
    (s : Snapshot) : (c.planCharge disk sum now s).1.target =
      some (if 0 < c.aim disk now s then 0 else c.aim disk now s) := by
  unfold aim forecastPower reserve
  by_cases forced :
      mustCharge s ((predict c.energyStore disk now).1.getD c.settings.minimumEnergy) = true
  · simp only [planCharge, forced, if_true]
  · simp only [planCharge, forced]
    rfl

theorem cut_aim (aim : Watts) : (if 0 < aim then 0 else aim : Watts).toInt = min aim.toInt 0 := by
  split
  · next feeds =>
    have positive := Int32.lt_iff_toInt_lt.mp feeds
    rw [Int32.toInt_zero] at positive ⊢
    omega
  · next draws =>
    have nonpos := Int32.le_iff_toInt_le.mp (Int32.not_lt.mp draws)
    rw [Int32.toInt_zero] at nonpos
    omega

theorem forecast_within_iff {most : Int} (nonneg : 0 ≤ most) (forecast : Option Watts) :
    -most ≤ min (forecast.getD 0).toInt 0 ↔
      ∀ value, forecast = some value → -most ≤ value.toInt := by
  cases forecast with
  | none =>
    rw [Option.getD_none, Int32.toInt_zero]
    constructor
    · intro _ value known
      cases known
    · intro _
      omega
  | some value =>
    rw [Option.getD_some]
    constructor
    · intro within value' known
      cases known
      omega
    · intro within
      have draws := within value rfl
      omega

section Run

variable {σ α : Type} [StorageUnit α] [Plant σ α] {c : Controller} {disk : Disk} {plant : σ}
  {sum : Aggregates} {now : Instant} {ran : Ran σ} {d : Dispatch}

theorem target_of_run (nonneg : 0 ≤ c.settings.maxGridPower.toInt)
    (h : c.run disk plant sum now = .ok ran) (dispatched : ran.outcome = .ok (.dispatched d))
    (charges : d.plan.direction = .charge) :
    ∃ target : Watts, d.plan.target = some target ∧
      target.toInt = if mustCharge d.snapshot (c.reserve disk now)
        then -c.settings.maxGridPower.toInt
        else min ((c.forecastPower disk now).getD 0).toInt 0 := by
  obtain ⟨-, ⟨-, main, served⟩ | ⟨-, charged⟩⟩ := plan_of_run h dispatched
  · rw [served] at charges
    cases charges
  · rw [charged]
    refine ⟨_, target_planCharge c disk sum now d.snapshot, ?_⟩
    rw [cut_aim, aim]
    split
    · rw [Reading.toInt_satNeg_of_nonneg nonneg]
      omega
    · rfl

/-- A target beyond the largest draw comes from the power forecast, and every forecast value beyond
it gets through in a cycle that need not charge. -/
theorem target_within_maximum_iff (nonneg : 0 ≤ c.settings.maxGridPower.toInt)
    (h : c.run disk plant sum now = .ok ran) (dispatched : ran.outcome = .ok (.dispatched d))
    (charges : d.plan.direction = .charge) :
    ∃ target : Watts, d.plan.target = some target ∧ target.toInt ≤ 0 ∧
      (target.toInt = if mustCharge d.snapshot (c.reserve disk now)
        then -c.settings.maxGridPower.toInt
        else min ((c.forecastPower disk now).getD 0).toInt 0) ∧
      (-c.settings.maxGridPower.toInt ≤ target.toInt ↔
        mustCharge d.snapshot (c.reserve disk now) = true ∨
          ∀ value, c.forecastPower disk now = some value →
            -c.settings.maxGridPower.toInt ≤ value.toInt) := by
  obtain ⟨target, aimed, value⟩ := target_of_run nonneg h dispatched charges
  refine ⟨target, aimed, ?_, value, ?_⟩
  · rw [value]
    split
    · omega
    · omega
  · rw [value]
    split
    · next forced =>
      constructor
      · exact fun _ => .inl forced
      · exact fun _ => Int.le_refl _
    · next free =>
      rw [forecast_within_iff nonneg]
      constructor
      · exact .inr
      · exact fun within => within.resolve_left free

end Run

/-- Two units that need not charge. -/
def halfFullPlant : ScriptedPlant :=
  { drainedPlant with
    main := { drainedPlant.main with charge := some 40 }
    support := { drainedPlant.support with charge := some 40 } }

/-- A forecast of more power than the grid is to deliver. -/
def deepDraw : Disk :=
  .ofList [("power.csv",
    .ok "start,end,value\n2022-12-08T00:00:00,2022-12-09T00:00:00,-250000\n".toUTF8)]

def forecastFollower : Controller := create { Settings.default with powerForecast := "power.csv" }

theorem forecastFollower_draws : ∃ (ran : Ran ScriptedPlant) (d : Dispatch),
    forecastFollower.run deepDraw halfFullPlant { consumption := some 0 }
      SimulationSpec.defaultStart = .ok ran ∧
    ran.outcome = .ok (.dispatched d) ∧ d.plan.direction = .charge ∧
    d.plan.target = some (-250000) := by
  have trace : (do
      let ran ← (forecastFollower.run deepDraw halfFullPlant { consumption := some 0 }
        SimulationSpec.defaultStart).toOption
      let outcome ← ran.outcome.toOption
      let d ← outcome.dispatch?
      some (decide (d.plan.direction = .charge ∧ d.plan.target = some (-250000)))) =
        some true := by
    decide +kernel
  simp only [Option.bind_eq_bind, Option.bind_eq_some_iff] at trace
  obtain ⟨ran, runs, outcome, ended, d, told, facts⟩ := trace
  obtain ⟨charges, aimed⟩ := of_decide_eq_true (Option.some.inj facts)
  rw [Outcome.eq_dispatched told] at ended
  exact ⟨ran, d, ok_of_toOption runs, ok_of_toOption ended, charges, aimed⟩

/-- The draw of 250 kW where the grid is to deliver 200 kW is the forecast's. -/
theorem target_within_maximum_iff_deepDraw : ∃ (ran : Ran ScriptedPlant) (d : Dispatch),
    forecastFollower.run deepDraw halfFullPlant { consumption := some 0 }
      SimulationSpec.defaultStart = .ok ran ∧
    ran.outcome = .ok (.dispatched d) ∧ d.plan.target = some (-250000) ∧
    mustCharge d.snapshot (forecastFollower.reserve deepDraw SimulationSpec.defaultStart) = false ∧
    ∃ value, forecastFollower.forecastPower deepDraw SimulationSpec.defaultStart = some value ∧
      value.toInt < -200000 := by
  obtain ⟨ran, d, runs, dispatched, charges, aimed⟩ := forecastFollower_draws
  obtain ⟨target, same, -, -, within⟩ :=
    target_within_maximum_iff (by decide) runs dispatched charges
  cases aimed.symm.trans same
  have beyond : ¬-forecastFollower.settings.maxGridPower.toInt ≤ (-250000 : Watts).toInt := by
    decide
  rw [within, not_or, Bool.not_eq_true, Classical.not_forall] at beyond
  obtain ⟨free, value, far⟩ := beyond
  obtain ⟨known, below⟩ := Classical.not_imp.mp far
  exact ⟨ran, d, runs, dispatched, aimed, free, value, known, Int.not_le.mp below⟩

theorem target_not_always_within_maximum :
    ¬∀ (c : Controller) (disk : Disk) (plant : ScriptedPlant) (sum : Aggregates) (now : Instant)
      (ran : Ran ScriptedPlant) (d : Dispatch) (target : Watts),
      0 ≤ c.settings.maxGridPower.toInt → c.run disk plant sum now = .ok ran →
      ran.outcome = .ok (.dispatched d) → d.plan.direction = .charge →
      d.plan.target = some target →
      -c.settings.maxGridPower.toInt ≤ target.toInt ∧ target.toInt ≤ 0 := by
  intro always
  obtain ⟨ran, d, runs, dispatched, charges, aimed⟩ := forecastFollower_draws
  obtain ⟨within, -⟩ := always _ _ _ _ _ ran d _ (by decide) runs dispatched charges aimed
  revert within
  decide

end HybridStorage.Controller
