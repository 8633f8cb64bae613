import HybridStorage.Proofs.Session
import HybridStorage.Proofs.Totals

/-!
# Balance at the grid

The grid delivers what load and production and the two units leave. So it delivers what a charge
cycle aims at, or nothing in a discharge cycle, as far as the units apply what is required of them.
-/

namespace HybridStorage

/-- The surplus of the production, the required power and the power that both units apply all fit a
reading, so that nothing is cut off. -/
structure Record.Unsaturated (r : Record) : Prop where
  surplus : Reading.Fits (r.production.toInt - r.load.toInt)
  required : ∀ target, r.target = some target →
    Reading.Fits (target.toInt - (r.production.toInt - r.load.toInt))
  applied : Reading.Fits (r.main.applied.toInt + r.support.applied.toInt)

/-- What the units leave of a required power. -/
def Record.unmet (r : Record) (required : Watts) : Int :=
  required.toInt - r.main.applied.toInt - r.support.applied.toInt

namespace Engine

variable {e : Engine} {disk : Disk} {index : Nat} {now : Instant} {sample : Sample} {c : Cycled}
  {d : Dispatch}

theorem Serves.record_of_dispatched {net : Watts} {metered : Site} {ran : Controller.Ran Site}
    {grid : Watts} (steps : e.Serves disk index now sample c net metered ran grid)
    (dispatched : c.outcome = .ok (.dispatched d)) :
    c.record.load = sample.load ∧ c.record.production = sample.production ∧
      c.record.grid = grid ∧ c.record.direction = some d.plan.direction ∧
      c.record.required = some d.plan.required ∧ c.record.target = d.plan.target := by
  rw [steps.record_eq, ← steps.outcome_eq, dispatched]
  exact ⟨rfl, rfl, rfl, rfl, rfl, rfl⟩

theorem applied_of_serve (serve : e.serve disk index now sample = .ok c)
    (dispatched : c.outcome = .ok (.dispatched d)) (role : UnitRole) :
    ∃ b, c.engine.site.unit? (e.controller.settings.unit role) = some b ∧
      (c.record.unit role).applied = b.active := by
  obtain ⟨_, present, -⟩ := granted_of_serve serve dispatched role
  rcases unit?_of_serve serve (e.controller.settings.unit role)
    with ⟨absent, -⟩ | ⟨_, b, -, -, left⟩
  · cases absent.symm.trans present
  · refine ⟨b, left, ?_⟩
    rw [unit_of_serve serve role, unitRecord_of_unit? left]

/-- A dispatched cycle serves its net load, or charges with the surplus. -/
theorem plan_of_serve (serve : e.serve disk index now sample = .ok c)
    (dispatched : c.outcome = .ok (.dispatched d)) :
    ∃ net : Watts, net.toInt = c.record.load.toInt - c.record.production.toInt ∧
      ((0 < net.toInt ∧ d.plan.direction = .discharge ∧ d.plan.target = none ∧
          d.plan.production = 0 ∧ d.plan.required = net) ∨
        (net.toInt ≤ 0 ∧ d.plan.direction = .charge ∧
          d.plan.production = max (Reading.satNeg net) 0 ∧
          ∃ target, d.plan.target = some target ∧
            d.plan.required = Reading.satSub target d.plan.production)) := by
  obtain ⟨net, _, ran, _, steps⟩ := serves_of_serve serve
  obtain ⟨load, production, -⟩ := steps.record_of_dispatched dispatched
  rw [steps.outcome_eq] at dispatched
  obtain ⟨known, decided⟩ := Controller.plan_of_run steps.runs dispatched
  have consumed : net = d.snapshot.consumption := Option.some.inj known
  rw [← consumed] at decided
  rw [load, production]
  refine ⟨net, Reading.sub_eq_ok_iff.mp steps.net, ?_⟩
  rcases decided with ⟨consumes, main, served⟩ | ⟨none, charged⟩
  · rw [served]
    exact .inl ⟨consumes, rfl, rfl, rfl, consumed.symm⟩
  · rw [charged]
    exact .inr ⟨none, rfl, rfl, _, rfl, rfl⟩

/-- Without saturation, what a charge cycle requires is its target less the surplus, and what a
discharge cycle requires is the load less the production. -/
theorem required_of_serve (serve : e.serve disk index now sample = .ok c)
    (dispatched : c.outcome = .ok (.dispatched d)) (unsaturated : c.record.Unsaturated) :
    ∃ required : Watts, c.record.required = some required ∧
      ((c.record.direction = some .charge ∧
          d.plan.production.toInt = c.record.production.toInt - c.record.load.toInt ∧
          0 ≤ d.plan.production.toInt ∧ ∃ target : Watts, c.record.target = some target ∧
            required.toInt = target.toInt - d.plan.production.toInt) ∨
        (c.record.direction = some .discharge ∧ d.plan.production.toInt = 0 ∧
          0 < required.toInt ∧ c.record.target = none ∧
          required.toInt = c.record.load.toInt - c.record.production.toInt)) := by
  obtain ⟨surplus, requires, -⟩ := unsaturated
  obtain ⟨_, _, _, _, steps⟩ := serves_of_serve serve
  obtain ⟨-, -, -, direction, required, target⟩ := steps.record_of_dispatched dispatched
  obtain ⟨net, netted, discharge | charge⟩ := plan_of_serve serve dispatched
  · obtain ⟨consumes, discharges, untargeted, unused, served⟩ := discharge
    rw [discharges] at direction
    rw [untargeted] at target
    rw [served] at required
    have none : d.plan.production.toInt = 0 := by
      rw [unused, Int32.toInt_zero]
    exact ⟨net, required, .inr ⟨direction, none, consumes, target, netted⟩⟩
  · obtain ⟨none, charges, used, aim, aimed, share⟩ := charge
    have spare : d.plan.production.toInt = c.record.production.toInt - c.record.load.toInt := by
      have negated : c.record.production.toInt - c.record.load.toInt = -net.toInt := by omega
      rw [negated] at surplus ⊢
      rw [used, toInt_max, Reading.satNeg, Reading.toInt_saturate_of_fits surplus, Int32.toInt_zero]
      omega
    rw [charges] at direction
    rw [aimed] at target
    have fits := requires aim target
    rw [← spare] at fits
    refine ⟨d.plan.required, required, .inl ⟨direction, spare, by omega, aim, target, ?_⟩⟩
    rw [share, Reading.satSub, Reading.toInt_saturate_of_fits fits]

variable {s : Scenario} {insertable : Battery.Parameters → Prop} {history : List Cycled}

theorem Session.totalPower_of_dispatched (session : Session s insertable history e)
    (serves : e.serveNext disk sample = .ok (some c))
    (dispatched : c.outcome = .ok (.dispatched d)) :
    c.engine.site.totalPower =
      some (Reading.satAdd c.record.main.applied c.record.support.applied) := by
  obtain ⟨_, _, _, _, serve⟩ := serveNext_eq_ok_some_iff.mp serves
  obtain ⟨_, foundMain, appliedMain⟩ := applied_of_serve serve dispatched .main
  obtain ⟨_, foundSupport, appliedSupport⟩ := applied_of_serve serve dispatched .support
  have different : e.controller.settings.mainUnit ≠ e.controller.settings.supportUnit := by
    obtain ⟨_, _, _, _, steps⟩ := serves_of_serve serve
    rw [steps.outcome_eq] at dispatched
    exact Controller.units_differ_of_run steps.runs dispatched
  change c.record.main.applied = _ at appliedMain
  change c.record.support.applied = _ at appliedSupport
  rw [appliedMain, appliedSupport]
  refine Site.totalPower_of_two different foundMain foundSupport ?_
  intro id b found notMain notSupport
  exact session.active_of_unasked serves found
    (Settings.asked_of_other notMain notSupport c.outcome)

theorem Session.grid_eq (session : Session s insertable history e)
    (serves : e.serveNext disk sample = .ok (some c))
    (dispatched : c.outcome = .ok (.dispatched d))
    (fits : Reading.Fits (c.record.main.applied.toInt + c.record.support.applied.toInt)) :
    c.record.grid.toInt = c.record.load.toInt - c.record.production.toInt -
      c.record.main.applied.toInt - c.record.support.applied.toInt := by
  have total := session.totalPower_of_dispatched serves dispatched
  obtain ⟨_, _, _, _, serve⟩ := serveNext_eq_ok_some_iff.mp serves
  obtain ⟨net, _, ran, grid, steps⟩ := serves_of_serve serve
  obtain ⟨load, production, same, -⟩ := steps.record_of_dispatched dispatched
  have netted := Reading.sub_eq_ok_iff.mp steps.net
  have balanced := Reading.sub_eq_ok_iff.mp steps.balances
  rw [total, Option.getD_some, Reading.satAdd, Reading.toInt_saturate_of_fits fits] at balanced
  rw [load, production, same]
  omega

/-- The grid delivers the load less production and storage, whatever other units there are. What it
delivers beyond the target is what the units leave of the required power. -/
theorem grid_balances (session : Session s insertable history e)
    (serves : e.serveNext disk sample = .ok (some c))
    (dispatched : c.outcome = .ok (.dispatched d)) (unsaturated : c.record.Unsaturated) :
    c.record.grid.toInt = c.record.load.toInt - c.record.production.toInt -
        c.record.main.applied.toInt - c.record.support.applied.toInt ∧
      d.plan.production.toInt = max (c.record.production.toInt - c.record.load.toInt) 0 ∧
      ∃ required : Watts, c.record.required = some required ∧
        ((c.record.direction = some .charge ∧ ∃ target : Watts, c.record.target = some target ∧
            c.record.grid.toInt = -target.toInt + c.record.unmet required ∧
            (c.record.main.applied.toInt + c.record.support.applied.toInt = required.toInt →
              c.record.grid.toInt = -target.toInt)) ∨
          (c.record.direction = some .discharge ∧ c.record.target = none ∧
            c.record.grid.toInt = c.record.unmet required ∧
            (c.record.main.applied.toInt + c.record.support.applied.toInt = required.toInt →
              c.record.grid.toInt = 0))) := by
  have balanced := session.grid_eq serves dispatched unsaturated.applied
  obtain ⟨_, _, _, _, serve⟩ := serveNext_eq_ok_some_iff.mp serves
  obtain ⟨required, asked, charge | discharge⟩ := required_of_serve serve dispatched unsaturated
  · obtain ⟨direction, spare, charges, target, aimed, share⟩ := charge
    refine ⟨balanced, by omega, required, asked, .inl ⟨direction, target, aimed, ?_, ?_⟩⟩
    · unfold Record.unmet
      omega
    · intro met
      omega
  · obtain ⟨direction, unused, consumes, untargeted, share⟩ := discharge
    refine ⟨balanced, by omega, required, asked, .inr ⟨direction, untargeted, ?_, ?_⟩⟩
    · unfold Record.unmet
      omega
    · intro met
      omega

/-- Three batteries that have less energy than the reserve. -/
def reserveScenario : Scenario :=
  { Scenario.hybrid with
    controller := { Settings.default with minimumEnergy := 200000, maxGridPower := 8000 }
    units := [.default, { UnitSpec.default with id := "ess1" },
      { UnitSpec.default with id := "ess2" }] }

/-- The two units charge with a production of 1 kW and 8 kW from the grid. -/
theorem grid_balances_reserve : ∃ e c, reserveScenario.build = .ok (.ok e) ∧
    e.serveProduction 1000 = some c ∧ c.record.target = some (-8000) ∧
    c.record.main.applied = -4500 ∧ c.record.support.applied = -4500 ∧
    c.record.grid.toInt = 8000 := by
  have trace : (do
      let e ← reserveScenario.build.toOption.bind Except.toOption
      let c ← e.serveProduction 1000
      let d ← c.dispatch?
      some (decide (c.record.load = 0 ∧ c.record.production = 1000 ∧
        c.record.direction = some .charge ∧ c.record.target = some (-8000) ∧
        c.record.required = some (-9000) ∧
        c.record.main.applied = -4500 ∧ c.record.support.applied = -4500))) = some true := by
    decide +kernel
  simp only [Option.bind_eq_bind, Option.bind_eq_some_iff] at trace
  obtain ⟨e, ⟨_, build, valid⟩, c, served, d, dispatched, facts⟩ := trace
  obtain ⟨load, production, direction, target, required, main, support⟩ :=
    of_decide_eq_true (Option.some.inj facts)
  rw [ok_of_toOption valid] at build
  have session : Session reserveScenario (fun _ => False) [] e := .built (ok_of_toOption build)
  have unsaturated : c.record.Unsaturated := by
    constructor
    · rw [load, production]
      constructor <;> decide
    · rintro _ known
      cases target.symm.trans known
      rw [load, production]
      constructor <;> decide
    · rw [main, support]
      constructor <;> decide
  obtain ⟨-, -, _, required', sides⟩ := grid_balances session
    (serveNext_of_serveProduction served) (c.dispatch?_eq_some_iff.mp dispatched) unsaturated
  cases required.symm.trans required'
  rcases sides with ⟨-, aim, target', -, met⟩ | ⟨direction', -⟩
  · cases target.symm.trans target'
    have all : c.record.main.applied.toInt + c.record.support.applied.toInt =
        (-9000 : Watts).toInt := by
      rw [main, support]
      decide
    exact ⟨e, c, ok_of_toOption build, served, target, main, support, met all⟩
  · cases direction.symm.trans direction'

end Engine

end HybridStorage
